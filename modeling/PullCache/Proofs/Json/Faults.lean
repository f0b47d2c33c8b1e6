import PullCache.Json.Shape
import PullCache.Proofs.Json.Reordering

/-!
# All faults of a document

`Shape.fault?` stops at the first fault of a document. `Shape.faults` goes on, and so gives all that
a reader could stumble over; the first of them is the one that is met (`Shape.head?_faults`).

Which faults a document has does not depend on the order of its members
(`Shape.mem_faults_iff_of_sameButOrder`). Which one comes first does.
-/

namespace PullCache.Json.Shape

variable {fault : Fault} {shape item value : Shape} {depth : Nat} {d d' : Document}
  {items items' : List Document} {members members' : List (Option String × Document)}

/-- The fault of a name that is half a character, which only what is passed over may have. -/
def nameFault? (value : Shape) (key : Option String) : Option Fault :=
  if key.isNone && !value matches .skipped then some .notJson else none

/-- The faults of the name of a choice. -/
def choiceNameFaults (names : List String) (key : Option String) : List Fault :=
  match key with
  | none => [.notJson]
  | some name => (misshapenUnless (names.contains name)).toList

/-- The fault of a choice that is written as an object. -/
def choiceFault? (names : List String) (depth : Nat) :
    List (Option String × Document) → Bool → Option Fault
  | (some name, value) :: more, closed =>
    misshapenUnless (names.contains name) <|>
      fault? (.nullable .nothing) depth value <|> endFault? (closed && more.isEmpty)
  | _, _ => some .notJson

/-- What a member of a record must look like that is no field. -/
def otherShape (style : RecordStyle) : Shape :=
  if style = .open then .anything else .skipped

mutual

/-- The faults of a document under a shape, in the order of the text: all that a reader meets who
goes on behind each. -/
def faults (shape : Shape) (depth : Nat) : Document → List Fault
  | .arr items closed =>
    match shape.base with
    | .skipped => itemsFaults .skipped depth items closed
    | .anything =>
      (depthFault? depth).toList ++ itemsFaults .anything (depth + 1) items closed
    | .list item => (depthFault? depth).toList ++ itemsFaults item (depth + 1) items closed
    | .record .strict fields =>
      (depthFault? depth).toList ++ positionsFaults fields (depth + 1) items closed
    | _ => (fault? shape depth (.arr items closed)).toList
  | .obj members closed =>
    match shape.base with
    | .skipped => valuesFaults .skipped depth members closed
    | .anything =>
      (depthFault? depth).toList ++ valuesFaults .anything (depth + 1) members closed
    | .dict value => (depthFault? depth).toList ++ valuesFaults value (depth + 1) members closed
    | .record style fields =>
      (depthFault? depth).toList ++ membersFaults style fields (depth + 1) [] members closed
    | .choice names =>
      (depthFault? depth).toList ++ choiceFaults names (depth + 1) members closed
    | _ => [.misshapen]
  | leaf => (fault? shape depth leaf).toList

/-- The faults of the items of a list. -/
def itemsFaults (item : Shape) (depth : Nat) : List Document → Bool → List Fault
  | [], closed => (endFault? closed).toList
  | first :: rest, closed => faults item depth first ++ itemsFaults item depth rest closed

/-- The faults of the members of a dictionary. -/
def valuesFaults (value : Shape) (depth : Nat) :
    List (Option String × Document) → Bool → List Fault
  | [], closed => (endFault? closed).toList
  | (key, first) :: rest, closed =>
    (nameFault? value key).toList ++ faults value depth first ++
      valuesFaults value depth rest closed

/-- The faults of a record that is written as an array. -/
def positionsFaults (fields : List (String × Shape × Bool)) (depth : Nat) :
    List Document → Bool → List Fault
  | [], closed =>
    (endFault? closed).toList ++
      (misshapenUnless (fields.all fun field ↦ !field.2.2)).toList
  | first :: rest, closed =>
    match fields with
    | [] => [.notJson]
    | field :: fields =>
      faults field.2.1 depth first ++ positionsFaults fields depth rest closed

/-- The faults of a record that is written as an object, some names having been seen. -/
def membersFaults (style : RecordStyle) (fields : List (String × Shape × Bool)) (depth : Nat)
    (seen : List String) : List (Option String × Document) → Bool → List Fault
  | [], closed =>
    (endFault? closed).toList ++
      (misshapenUnless (fields.all fun field ↦
        !field.2.2 || seen.contains field.1)).toList
  | (none, _) :: rest, closed => .notJson :: membersFaults style fields depth seen rest closed
  | (some key, first) :: rest, closed =>
    match fields.lookup key with
    | some (shape, _) =>
      (misshapenUnless (decide (style = .lenient) || !seen.contains key)).toList ++
        faults shape depth first ++ membersFaults style fields depth (key :: seen) rest closed
    | none =>
      faults (otherShape style) depth first ++
        membersFaults style fields depth seen rest closed

/-- The faults of a choice that is written as an object. It is to have one member. -/
def choiceFaults (names : List String) (depth : Nat) :
    List (Option String × Document) → Bool → List Fault
  | [], _ => [.notJson]
  | (key, first) :: rest, closed =>
    choiceNameFaults names key ++ faults (.nullable .nothing) depth first ++
      (endFault? (closed && rest.isEmpty)).toList ++
      if rest.isEmpty then [] else choiceFaults names depth rest closed

end

/-! ### The first fault -/

theorem fault?_of_choice {names : List String} {closed : Bool} (h : shape.base = .choice names) :
    fault? shape depth (.obj members closed) =
      (depthFault? depth <|> choiceFault? names (depth + 1) members closed) := by
  unfold fault?
  rw [h]
  rcases members with - | ⟨⟨- | name, value⟩, more⟩ <;> rfl

theorem valuesFault?_cons {key : Option String} {closed : Bool} :
    valuesFault? value depth ((key, d) :: members) closed =
      (nameFault? value key <|> fault? value depth d <|>
        valuesFault? value depth members closed) := by
  cases value <;> simp [valuesFault?, nameFault?]

mutual

/-- **The fault that is met is the first one.** -/
theorem head?_faults : (d : Document) → (shape : Shape) → (depth : Nat) →
    (faults shape depth d).head? = fault? shape depth d
  | .null, _, _ | .bool _, _, _ | .num _, _, _ | .str _, _, _ | .broken, _, _ => by simp [faults]
  | .arr items closed, shape, depth => by
    unfold faults
    split <;> simp_all [fault?, head?_itemsFaults items, head?_positionsFaults items]
  | .obj members closed, shape, depth => by
    unfold faults
    split
    case h_5 names hchoice =>
      simp [fault?_of_choice hchoice, head?_choiceFaults members]
    all_goals simp_all [fault?, head?_valuesFaults members, head?_membersFaults members]

theorem head?_itemsFaults : (items : List Document) → (item : Shape) → (depth : Nat) →
    (closed : Bool) →
    (itemsFaults item depth items closed).head? = itemsFault? item depth items closed
  | [], _, _, _ => by simp [itemsFaults, itemsFault?]
  | first :: rest, _, _, _ => by
    simp [itemsFaults, itemsFault?, head?_faults first, head?_itemsFaults rest]

theorem head?_valuesFaults : (members : List (Option String × Document)) → (value : Shape) →
    (depth : Nat) → (closed : Bool) →
    (valuesFaults value depth members closed).head? = valuesFault? value depth members closed
  | [], _, _, _ => by simp [valuesFaults, valuesFault?]
  | (key, first) :: rest, value, _, _ => by
    simp [valuesFaults, valuesFault?_cons, head?_faults first, head?_valuesFaults rest]

theorem head?_positionsFaults : (items : List Document) →
    (fields : List (String × Shape × Bool)) → (depth : Nat) → (closed : Bool) →
    (positionsFaults fields depth items closed).head? = positionsFault? fields depth items closed
  | [], _, _, _ => by simp [positionsFaults, positionsFault?]
  | _ :: _, [], _, _ => by simp [positionsFaults, positionsFault?]
  | first :: rest, _ :: _, _, _ => by
    simp [positionsFaults, positionsFault?, head?_faults first, head?_positionsFaults rest]

theorem head?_membersFaults : (members : List (Option String × Document)) →
    (style : RecordStyle) → (fields : List (String × Shape × Bool)) → (depth : Nat) →
    (seen : List String) → (closed : Bool) →
    (membersFaults style fields depth seen members closed).head? =
      membersFault? style fields depth seen members closed
  | [], _, _, _, _, _ => by simp [membersFaults, membersFault?]
  | (none, _) :: _, _, _, _, _, _ => by simp [membersFaults, membersFault?]
  | (some key, first) :: rest, style, fields, _, _, _ => by
    rcases hfield : fields.lookup key with - | field <;> cases style <;>
      simp [membersFaults, membersFault?, hfield, otherShape, head?_faults first,
        head?_membersFaults rest]

theorem head?_choiceFaults : (members : List (Option String × Document)) →
    (names : List String) → (depth : Nat) → (closed : Bool) →
    (choiceFaults names depth members closed).head? = choiceFault? names depth members closed
  | [], _, _, _ => by simp [choiceFaults, choiceFault?]
  | (none, _) :: _, _, _, _ => by simp [choiceFaults, choiceFault?, choiceNameFaults]
  | [(some _, first)], _, _, _ => by
    simp [choiceFaults, choiceFault?, choiceNameFaults, head?_faults first]
  | (some _, first) :: _ :: _, _, _, _ => by
    simp [choiceFaults, choiceFault?, choiceNameFaults, head?_faults first, endFault?]

end

/-! ### The faults of the parts -/

section

variable {fields : List (String × Shape × Bool)} {style : RecordStyle} {seen : List String}

/-- The faults of one member of a dictionary. -/
def entryFaults (value : Shape) (depth : Nat) (key : Option String) (item : Document) :
    List Fault :=
  (nameFault? value key).toList ++ faults value depth item

/-- The faults of one member of a record. -/
def fieldFaults (style : RecordStyle) (fields : List (String × Shape × Bool)) (depth : Nat)
    (key : Option String) (item : Document) : List Fault :=
  match key with
  | none => [.notJson]
  | some key =>
    match fields.lookup key with
    | some (shape, _) => faults shape depth item
    | none => faults (otherShape style) depth item

/-- The faults of one member of a choice. -/
def optionFaults (names : List String) (depth : Nat) (key : Option String) (item : Document) :
    List Fault :=
  choiceNameFaults names key ++ faults (.nullable .nothing) depth item

theorem misshapenUnless_eq_some_iff {test : Bool} :
    misshapenUnless test = some fault ↔ fault = .misshapen ∧ test = false := by
  cases test <;> simp [misshapenUnless, eq_comm]

theorem mem_itemsFaults_iff : fault ∈ itemsFaults item depth items true ↔
    ∃ i ∈ items, fault ∈ faults item depth i := by
  induction items with
  | nil => simp [itemsFaults, endFault?]
  | cons first rest ih => simp [itemsFaults, ih]

theorem mem_valuesFaults_iff : fault ∈ valuesFaults value depth members true ↔
    ∃ m ∈ members, fault ∈ entryFaults value depth m.1 m.2 := by
  induction members with
  | nil => simp [valuesFaults, endFault?]
  | cons m rest ih =>
    obtain ⟨key, first⟩ := m
    rw [valuesFaults, List.mem_append, ih, List.exists_mem_cons_iff]
    rfl

theorem mem_choiceFaults_iff {names : List String} :
    fault ∈ choiceFaults names depth members true ↔
      (∃ m ∈ members, fault ∈ optionFaults names depth m.1 m.2) ∨
        fault = .notJson ∧ members.length ≠ 1 := by
  induction members with
  | nil => simp [choiceFaults]
  | cons m rest ih =>
    obtain ⟨key, first⟩ := m
    have hfirst : fault ∈ choiceFaults names depth ((key, first) :: rest) true ↔
        fault ∈ optionFaults names depth key first ∨
          (rest ≠ [] ∧ (fault = .notJson ∨ fault ∈ choiceFaults names depth rest true)) := by
      cases rest with
      | nil => simp [choiceFaults, optionFaults, endFault?]
      | cons m rest =>
        rw [choiceFaults, if_neg (by simp), List.mem_append, List.mem_append]
        simp [optionFaults, endFault?, or_assoc]
    rw [hfirst, ih, List.exists_mem_cons_iff]
    cases rest with
    | nil => simp
    | cons m' rest =>
      simp only [ne_eq, reduceCtorEq, not_false_eq_true, true_and, List.length_cons,
        Nat.succ_ne_zero, Nat.add_eq_right]
      grind

/-- A field that must be there is neither seen nor among the keys to come. -/
def Lacks (fields : List (String × Shape × Bool)) (seen : List String)
    (keys : List (Option String)) : Prop :=
  ∃ field ∈ fields, field.2.2 = true ∧ field.1 ∉ seen ∧ some field.1 ∉ keys

theorem lacks_cons_none {keys : List (Option String)} :
    Lacks fields seen (none :: keys) ↔ Lacks fields seen keys := by
  simp [Lacks]

theorem lacks_cons_some {key : String} {keys : List (Option String)} :
    Lacks fields seen (some key :: keys) ↔ Lacks fields (key :: seen) keys := by
  simp only [Lacks, List.mem_cons, not_or, Option.some.injEq]
  grind

/-- A key that is no field is not missed. -/
theorem lacks_cons_of_lookup_eq_none {key : String} {keys : List (Option String)}
    (h : fields.lookup key = none) :
    Lacks fields seen (some key :: keys) ↔ Lacks fields seen keys := by
  have hother : ∀ field ∈ fields, field.1 ≠ key := by
    rintro field hmem rfl
    simpa using List.lookup_eq_none_iff.1 h field hmem
  refine exists_congr fun field ↦ and_congr_right fun hmem ↦ ?_
  simp [hother field hmem]

/-- The faults of a record with no name twice are those of its members, and that a field is
missing. -/
theorem mem_membersFaults_iff (hnodup : (members.map Prod.fst).Nodup)
    (hseen : ∀ key ∈ seen, some key ∉ members.map Prod.fst) :
    fault ∈ membersFaults style fields depth seen members true ↔
      (∃ m ∈ members, fault ∈ fieldFaults style fields depth m.1 m.2) ∨
        fault = .misshapen ∧ Lacks fields seen (members.map Prod.fst) := by
  induction members generalizing seen with
  | nil => simp [membersFaults, endFault?, misshapenUnless_eq_some_iff, Lacks]
  | cons m rest ih =>
    obtain ⟨key, first⟩ := m
    obtain ⟨hkey, hrest⟩ := List.nodup_cons.1 hnodup
    have hlater : ∀ key ∈ seen, some key ∉ rest.map Prod.fst :=
      fun key hin hmem ↦ hseen key hin (List.mem_cons_of_mem _ hmem)
    rw [List.exists_mem_cons_iff, List.map_cons]
    cases key with
    | none =>
      rw [membersFaults, List.mem_cons, ih hrest hlater, lacks_cons_none]
      simp [fieldFaults, or_assoc]
    | some key =>
      rcases hfield : fields.lookup key with - | ⟨shape, required⟩
      · rw [membersFaults, hfield, List.mem_append, ih hrest hlater,
          lacks_cons_of_lookup_eq_none hfield, ← or_assoc]
        simp [fieldFaults, hfield]
      · -- a name that comes once is new, so there is no fault of its coming again
        have hnew : key ∉ seen := fun hin ↦ hseen key hin List.mem_cons_self
        have hseen' : ∀ q ∈ key :: seen, some q ∉ rest.map Prod.fst :=
          List.forall_mem_cons.2 ⟨hkey, hlater⟩
        rw [membersFaults, hfield, List.mem_append, List.mem_append, ih hrest hseen',
          lacks_cons_some, ← or_assoc]
        simp [fieldFaults, hfield, misshapenUnless_eq_some_iff, hnew]

/-! ### The order of members

The faults of a part are had by that part in the other order. So the faults of the whole are had
too. -/

section Items

variable (hlength : items.length = items'.length)
  (h : ∀ (i : Nat) item item', items[i]? = some item → items'[i]? = some item' →
    ∀ shape depth, fault ∈ faults shape depth item → fault ∈ faults shape depth item')

include hlength h

theorem mem_itemsFaults_of_forall (hfault : fault ∈ itemsFaults item depth items true) :
    fault ∈ itemsFaults item depth items' true := by
  rw [mem_itemsFaults_iff] at hfault ⊢
  obtain ⟨first, hmem, hfault⟩ := hfault
  obtain ⟨i, hi, rfl⟩ := List.getElem_of_mem hmem
  exact ⟨items'[i], List.getElem_mem _, h i _ _ (List.getElem?_eq_getElem hi)
    (List.getElem?_eq_getElem _) _ _ hfault⟩

theorem mem_positionsFaults_of_forall (hfault : fault ∈ positionsFaults fields depth items true) :
    fault ∈ positionsFaults fields depth items' true := by
  induction items generalizing items' fields with
  | nil =>
    obtain rfl : items' = [] := List.length_eq_zero_iff.1 hlength.symm
    exact hfault
  | cons first rest ih =>
    obtain ⟨first', rest', rfl⟩ := List.exists_cons_of_length_eq_add_one hlength.symm
    cases fields with
    | nil => exact hfault
    | cons field fields =>
      refine List.mem_append.2 ((List.mem_append.1 hfault).imp ?_ ?_)
      · exact h 0 first first' rfl rfl field.2.1 depth
      · exact ih (Nat.succ.inj hlength) fun i ↦ h (i + 1)

end Items

section Members

variable (hkeys : (members.map Prod.fst).Perm (members'.map Prod.fst))

include hkeys

/-- What a member has is had by the member of its name. -/
theorem exists_mem_of_perm_keys (p : Option String → Document → Prop)
    (hp : ∀ key item item', (key, item) ∈ members → (key, item') ∈ members' →
      p key item → p key item') (hmember : ∃ m ∈ members, p m.1 m.2) :
    ∃ m ∈ members', p m.1 m.2 := by
  obtain ⟨⟨key, item⟩, hmem, hitem⟩ := hmember
  obtain ⟨⟨key', item'⟩, hmem', hkey⟩ :=
    List.mem_map.1 (hkeys.subset (List.mem_map.2 ⟨_, hmem, rfl⟩))
  obtain rfl : key' = key := hkey
  exact ⟨_, hmem', hp key' item item' hmem hmem' hitem⟩

variable (h : ∀ key item item', (key, item) ∈ members → (key, item') ∈ members' →
  ∀ shape depth, fault ∈ faults shape depth item → fault ∈ faults shape depth item')

include h

theorem mem_valuesFaults_of_forall (hfault : fault ∈ valuesFaults value depth members true) :
    fault ∈ valuesFaults value depth members' true := by
  rw [mem_valuesFaults_iff] at hfault ⊢
  refine exists_mem_of_perm_keys hkeys (fun key item ↦ fault ∈ entryFaults value depth key item)
    (fun key item item' hmem hmem' hitem ↦ ?_) hfault
  exact List.mem_append.2
    ((List.mem_append.1 hitem).imp_right (h key item item' hmem hmem' value depth))

theorem mem_membersFaults_of_forall (hnodup : (members.map Prod.fst).Nodup)
    (hfault : fault ∈ membersFaults style fields depth [] members true) :
    fault ∈ membersFaults style fields depth [] members' true := by
  rw [mem_membersFaults_iff hnodup (by simp)] at hfault
  rw [mem_membersFaults_iff (hkeys.nodup_iff.1 hnodup) (by simp)]
  refine hfault.imp (exists_mem_of_perm_keys hkeys
    (fun key item ↦ fault ∈ fieldFaults style fields depth key item) ?_) ?_
  · intro key item item' hmem hmem' hitem
    have hsame := h key item item' hmem hmem'
    unfold fieldFaults at hitem ⊢
    split at hitem
    · exact hitem
    · split at hitem
      · exact hsame _ _ hitem
      · exact hsame _ _ hitem
  · -- the same fields are missing
    rintro ⟨rfl, field, hfield, hrequired, hseen, hmissing⟩
    exact ⟨rfl, field, hfield, hrequired, hseen, fun hmem ↦ hmissing (hkeys.symm.subset hmem)⟩

theorem mem_choiceFaults_of_forall {names : List String}
    (hfault : fault ∈ choiceFaults names depth members true) :
    fault ∈ choiceFaults names depth members' true := by
  have hlength : members.length = members'.length := by simpa using hkeys.length_eq
  rw [mem_choiceFaults_iff] at hfault ⊢
  rw [← hlength]
  refine hfault.imp_left (exists_mem_of_perm_keys hkeys
    (fun key item ↦ fault ∈ optionFaults names depth key item)
    fun key item item' hmem hmem' hitem ↦ ?_)
  exact List.mem_append.2 ((List.mem_append.1 hitem).imp_right (h key item item' hmem hmem' _ _))

end Members

/-- What comes behind the fault of the depth may be looked at alone. -/
theorem mem_append_of_imp {l faults faults' : List Fault} (h : fault ∈ faults → fault ∈ faults')
    (hfault : fault ∈ l ++ faults) : fault ∈ l ++ faults' :=
  List.mem_append.2 ((List.mem_append.1 hfault).imp_right h)

theorem mem_faults_of_sameButOrder (h : d.SameButOrder d') (shape : Shape) (depth : Nat) :
    fault ∈ faults shape depth d → fault ∈ faults shape depth d' := by
  induction h generalizing shape depth with
  | null | bool | num | str => exact id
  | @arr items items' hlength h ih =>
    unfold faults
    split
    · exact mem_itemsFaults_of_forall hlength ih
    · exact mem_append_of_imp (mem_itemsFaults_of_forall hlength ih)
    · exact mem_append_of_imp (mem_itemsFaults_of_forall hlength ih)
    · exact mem_append_of_imp (mem_positionsFaults_of_forall hlength ih)
    · -- the array is at fault as it is
      unfold fault?
      split <;> simp_all
  | @obj members members' hkeys hnodup h ih =>
    have hkeysNodup := Document.nodup_keys_of_nodup_names hnodup
    unfold faults
    split
    · exact mem_valuesFaults_of_forall hkeys ih
    · exact mem_append_of_imp (mem_valuesFaults_of_forall hkeys ih)
    · exact mem_append_of_imp (mem_valuesFaults_of_forall hkeys ih)
    · exact mem_append_of_imp (mem_membersFaults_of_forall hkeys ih hkeysNodup)
    · exact mem_append_of_imp (mem_choiceFaults_of_forall hkeys ih)
    · exact id

/-- **Documents have the same faults in whatever order their members are.** -/
theorem mem_faults_iff_of_sameButOrder (h : d.SameButOrder d') :
    fault ∈ faults shape depth d ↔ fault ∈ faults shape depth d' :=
  ⟨mem_faults_of_sameButOrder h shape depth, mem_faults_of_sameButOrder h.symm shape depth⟩

theorem mem_faults_of_fault?_eq_some (h : fault? shape depth d = some fault) :
    fault ∈ faults shape depth d :=
  List.mem_of_mem_head? (by rw [head?_faults, h]; rfl)

/-- **Whether there is a fault at all does not depend on the order of the members.** -/
theorem fault?_eq_none_iff_of_sameButOrder (h : d.SameButOrder d') :
    fault? shape depth d = none ↔ fault? shape depth d' = none := by
  rw [← head?_faults, ← head?_faults, List.head?_eq_none_iff, List.head?_eq_none_iff,
    List.eq_nil_iff_forall_not_mem, List.eq_nil_iff_forall_not_mem]
  exact forall_congr' fun fault ↦ not_congr (mem_faults_iff_of_sameButOrder h)

/-- The faults that are met in two orders are one, or there are faults of both kinds. -/
theorem eq_or_forall_mem_faults {fault' : Fault} (h : d.SameButOrder d')
    (hfault : fault? shape depth d = some fault) (hfault' : fault? shape depth d' = some fault') :
    fault = fault' ∨ ∀ other, other ∈ faults shape depth d := by
  have hmem := mem_faults_of_fault?_eq_some hfault
  have hmem' := (mem_faults_iff_of_sameButOrder h).2 (mem_faults_of_fault?_eq_some hfault')
  by_cases hsame : fault = fault'
  · exact .inl hsame
  · refine .inr fun other ↦ ?_
    have hother : other = fault ∨ other = fault' := by
      cases other <;> cases fault <;> cases fault' <;> simp_all
    rcases hother with rfl | rfl
    · exact hmem
    · exact hmem'

end

end PullCache.Json.Shape
