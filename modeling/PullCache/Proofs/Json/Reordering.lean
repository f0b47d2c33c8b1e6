import Mathlib.Data.List.Nodup
import PullCache.Json.Document

/-!
# The order of members

`Document.SameButOrder` says of two documents that they are one value, written with the members of
its objects in two orders. Both documents are complete, and no object in them has two members of one
name. It can be decided (`isReordering_iff`).

The values of such documents are equal (`SameButOrder.value_eq`), since a value has its members in
the order of their names. A reader that goes through the documents meets their members in two
orders, though, and what it makes of them is not in this module.
-/

namespace PullCache

/-! ### Lists with keys -/

section Keyed

variable {α β γ : Type} {l l' : List (α × β)}

/-- Lists with the same keys are permuted when what is made of an entry depends on its key only. -/
theorem perm_map_of_keys {f : α × β → γ} (hkeys : (l.map Prod.fst).Perm (l'.map Prod.fst))
    (h : ∀ key a b, (key, a) ∈ l → (key, b) ∈ l' → f (key, a) = f (key, b)) :
    (l.map f).Perm (l'.map f) := by
  induction l generalizing l' with
  | nil =>
    obtain rfl : l' = [] := by simpa using hkeys
    exact .nil
  | cons head rest ih =>
    obtain ⟨key, a⟩ := head
    -- the other list has an entry of this key too, which is brought to the front
    obtain ⟨⟨k, b⟩, hb, hk⟩ := List.mem_map.1 (hkeys.subset List.mem_cons_self)
    obtain rfl : k = key := hk
    obtain ⟨before, after, rfl⟩ := List.append_of_mem hb
    have hfront : (before ++ (k, b) :: after).Perm ((k, b) :: (before ++ after)) :=
      List.perm_middle
    have hrest : (rest.map Prod.fst).Perm ((before ++ after).map Prod.fst) :=
      (List.perm_cons k).1 (hkeys.trans (hfront.map Prod.fst))
    have hsame : (rest.map f).Perm ((before ++ after).map f) :=
      ih hrest fun q x y hx hy ↦
        h q x y (List.mem_cons_of_mem _ hx) (hfront.symm.subset (List.mem_cons_of_mem _ hy))
    rw [List.map_cons, h k a b List.mem_cons_self hb]
    exact (hsame.cons _).trans (hfront.map f).symm

variable [BEq α] [LawfulBEq α] {key : α}

/-- With no key twice, looking up is membership. -/
theorem lookup_eq_some_iff_of_nodup (h : (l.map Prod.fst).Nodup) {value : β} :
    l.lookup key = some value ↔ (key, value) ∈ l := by
  induction l with
  | nil => simp
  | cons head rest ih =>
    obtain ⟨k, v⟩ := head
    obtain ⟨hhead, hrest⟩ := List.nodup_cons.1 h
    rw [List.lookup_cons]
    by_cases hk : key = k
    · subst hk
      have hlater : (key, value) ∉ rest := fun hmem ↦ hhead (List.mem_map.2 ⟨_, hmem, rfl⟩)
      simp [hlater, eq_comm]
    · simp [beq_eq_false_iff_ne.2 hk, hk, ih hrest]

/-- With no key twice, the order does not matter for looking up. -/
theorem lookup_eq_of_perm (h : l.Perm l') (hnodup : (l.map Prod.fst).Nodup) (key : α) :
    l.lookup key = l'.lookup key := by
  have hnodup' : (l'.map Prod.fst).Nodup := (h.map Prod.fst).nodup_iff.1 hnodup
  refine Option.ext fun value ↦ ?_
  rw [lookup_eq_some_iff_of_nodup hnodup, lookup_eq_some_iff_of_nodup hnodup', h.mem_iff]

/-- With no key twice, it does not matter from which end a key is looked for. -/
theorem lookup_reverse_of_nodup (hnodup : (l.map Prod.fst).Nodup) (key : α) :
    l.reverse.lookup key = l.lookup key :=
  (lookup_eq_of_perm l.reverse_perm.symm hnodup key).symm

theorem lookup_isSome_iff : (l.lookup key).isSome ↔ key ∈ l.map Prod.fst := by
  rw [Option.isSome_iff_ne_none, ne_eq, List.lookup_eq_none_iff]
  simp

/-- In lists with the same keys, a key looks up to values that are related as those of one key
are. -/
theorem rel_lookup_of_keys {r : β → β → Prop} (hkeys : (l.map Prod.fst).Perm (l'.map Prod.fst))
    (hnodup : (l.map Prod.fst).Nodup)
    (h : ∀ key a b, (key, a) ∈ l → (key, b) ∈ l' → r a b) (key : α) :
    Option.Rel r (l.lookup key) (l'.lookup key) := by
  have hfound : (l.lookup key).isSome ↔ (l'.lookup key).isSome := by
    rw [lookup_isSome_iff, lookup_isSome_iff, hkeys.mem_iff]
  rcases ha : l.lookup key with - | a <;> rcases hb : l'.lookup key with - | b
  · exact .none
  · simp [ha, hb] at hfound
  · simp [ha, hb] at hfound
  · exact .some (h key a b ((lookup_eq_some_iff_of_nodup hnodup).1 ha)
      ((lookup_eq_some_iff_of_nodup (hkeys.nodup_iff.1 hnodup)).1 hb))

/-- The same of values that have their keys by their places. -/
theorem rel_lookup_zip {r : β → β → Prop} {keys : List α} {values values' : List β}
    (hlength : values.length = values'.length)
    (h : ∀ (i : Nat) a b, values[i]? = some a → values'[i]? = some b → r a b) (key : α) :
    Option.Rel r ((keys.zip values).lookup key) ((keys.zip values').lookup key) := by
  induction keys generalizing values values' with
  | nil => exact .none
  | cons k keys ih =>
    cases values with
    | nil =>
      obtain rfl : values' = [] := List.length_eq_zero_iff.1 hlength.symm
      exact .none
    | cons a values =>
      obtain ⟨b, values', rfl⟩ := List.exists_cons_of_length_eq_add_one hlength.symm
      rw [List.zip_cons_cons, List.zip_cons_cons, List.lookup_cons, List.lookup_cons]
      by_cases hk : key = k
      · subst hk
        simpa using Option.Rel.some (h 0 a b rfl rfl)
      · rw [beq_eq_false_iff_ne.2 hk]
        exact ih (Nat.succ.inj hlength) fun i ↦ h (i + 1)

/-- With no key twice, the entries of a key are what it looks up to. -/
theorem filter_key_eq (hnodup : (l.map Prod.fst).Nodup) (key : α) :
    l.filter (fun e ↦ e.1 == key) = ((l.lookup key).map fun value ↦ (key, value)).toList := by
  induction l with
  | nil => rfl
  | cons head rest ih =>
    obtain ⟨k, v⟩ := head
    obtain ⟨hhead, hrest⟩ := List.nodup_cons.1 hnodup
    rw [List.filter_cons, List.lookup_cons]
    by_cases hk : key = k
    · subst hk
      have hlater : rest.lookup key = none := by
        rw [← Option.not_isSome_iff_eq_none, lookup_isSome_iff]
        exact hhead
      simp [ih hrest, hlater]
    · simp [ih hrest, beq_eq_false_iff_ne.2 hk, beq_eq_false_iff_ne.2 (Ne.symm hk)]

end Keyed

/-- A dictionary does not depend on the order of its insertions, if no key is inserted twice. -/
theorem Dict.ofList_eq_of_perm {α : Type} {l l' : List (String × α)} (h : l.Perm l')
    (hnodup : (l.map Prod.fst).Nodup) : ofList l = ofList l' := by
  refine ext_get? fun key ↦ ?_
  have hreverse : l.reverse.Perm l'.reverse := l.reverse_perm.trans (h.trans l'.reverse_perm.symm)
  rw [get?_ofList, get?_ofList]
  refine lookup_eq_of_perm hreverse ?_ key
  rwa [List.map_reverse, List.nodup_reverse]

namespace Json.Document

/-! ### Documents in two orders -/

/-- The names of the members of an object. A name that is half a character counts as the empty one,
which it is in a value. -/
def names (members : List (Option String × Document)) : List String :=
  members.map fun m ↦ m.1.getD ""

/-- The documents are one value, but for the order of the members of each object. Numbers are the
same when they are written the same. -/
inductive SameButOrder : Document → Document → Prop
  | null : SameButOrder .null .null
  | bool (value : Bool) : SameButOrder (.bool value) (.bool value)
  | num (literal : String) : SameButOrder (.num literal) (.num literal)
  | str (content : Option String) : SameButOrder (.str content) (.str content)
  | arr {items items' : List Document} (hlength : items.length = items'.length)
    (h : ∀ (i : Nat) item item', items[i]? = some item → items'[i]? = some item' →
      SameButOrder item item') :
    SameButOrder (.arr items true) (.arr items' true)
  | obj {members members' : List (Option String × Document)}
    (hkeys : (members.map Prod.fst).Perm (members'.map Prod.fst))
    (hnodup : (names members).Nodup)
    (h : ∀ key item item', (key, item) ∈ members → (key, item') ∈ members' →
      SameButOrder item item') :
    SameButOrder (.obj members true) (.obj members' true)

section

variable {d d' : Document} {members members' : List (Option String × Document)}

/-- Names that differ come from keys that differ. -/
theorem nodup_keys_of_nodup_names (h : (names members).Nodup) : (members.map Prod.fst).Nodup := by
  refine List.Nodup.of_map (fun key ↦ key.getD "") ?_
  rwa [List.map_map]

theorem nodup_names_of_perm (hkeys : (members.map Prod.fst).Perm (members'.map Prod.fst))
    (h : (names members).Nodup) : (names members').Nodup := by
  have hnames := hkeys.map fun key ↦ key.getD ""
  rw [List.map_map, List.map_map] at hnames
  exact hnames.nodup_iff.1 h

protected theorem SameButOrder.symm (h : d.SameButOrder d') : d'.SameButOrder d := by
  induction h with
  | null => exact .null
  | bool value => exact .bool value
  | num literal => exact .num literal
  | str content => exact .str content
  | arr hlength h ih =>
    exact .arr hlength.symm fun i item' item hitem' hitem ↦ ih i item item' hitem hitem'
  | obj hkeys hnodup h ih =>
    exact .obj hkeys.symm (nodup_names_of_perm hkeys hnodup)
      fun key item' item hmem' hmem ↦ ih key item item' hmem hmem'

end

/-! ### Deciding it -/

mutual

/-- Whether a document is another one with its members in another order. -/
def isReordering : Document → Document → Bool
  | .null, .null => true
  | .bool value, .bool value' => value == value'
  | .num literal, .num literal' => literal == literal'
  | .str content, .str content' => content == content'
  | .arr items closed, .arr items' closed' => closed && closed' && areReorderings items items'
  | .obj members closed, .obj members' closed' =>
    closed && closed' && decide ((members.map Prod.fst).Perm (members'.map Prod.fst)) &&
      decide (names members).Nodup && membersAreReorderings members members'
  | _, _ => false

/-- Whether the items of an array are those of another one, each perhaps in another order. -/
def areReorderings : List Document → List Document → Bool
  | [], [] => true
  | item :: items, item' :: items' => isReordering item item' && areReorderings items items'
  | _, _ => false

/-- Whether each member is there in another object, perhaps in another order. -/
def membersAreReorderings :
    List (Option String × Document) → List (Option String × Document) → Bool
  | [], _ => true
  | (key, item) :: members, members' =>
    members'.all (fun m ↦ m.1 != key || isReordering item m.2) &&
      membersAreReorderings members members'

end

mutual

theorem sameButOrder_of_isReordering :
    (d d' : Document) → isReordering d d' = true → d.SameButOrder d'
  | .null, .null, _ => .null
  | .bool value, .bool value', h => by
    obtain rfl : value = value' := by simpa [isReordering] using h
    exact .bool value
  | .num literal, .num literal', h => by
    obtain rfl : literal = literal' := by simpa [isReordering] using h
    exact .num literal
  | .str content, .str content', h => by
    obtain rfl : content = content' := by simpa [isReordering] using h
    exact .str content
  | .arr items closed, .arr items' closed', h => by
    simp only [isReordering, Bool.and_eq_true] at h
    obtain ⟨⟨rfl, rfl⟩, hitems⟩ := h
    obtain ⟨hlength, hsame⟩ := of_areReorderings items items' hitems
    exact .arr hlength hsame
  | .obj members closed, .obj members' closed', h => by
    simp only [isReordering, Bool.and_eq_true, decide_eq_true_eq] at h
    obtain ⟨⟨⟨⟨rfl, rfl⟩, hkeys⟩, hnodup⟩, hmembers⟩ := h
    exact .obj hkeys hnodup (of_membersAreReorderings members members' hmembers)

theorem of_areReorderings :
    (items items' : List Document) → areReorderings items items' = true →
      items.length = items'.length ∧ ∀ (i : Nat) item item', items[i]? = some item →
        items'[i]? = some item' → item.SameButOrder item'
  | [], [], _ => ⟨rfl, nofun⟩
  | item :: items, item' :: items', h => by
    obtain ⟨hfirst, hrest⟩ := Bool.and_eq_true_iff.1 h
    obtain ⟨hlength, hsame⟩ := of_areReorderings items items' hrest
    refine ⟨congrArg (· + 1) hlength, fun i a b ha hb ↦ ?_⟩
    cases i with
    | zero =>
      obtain rfl := Option.some.inj ha
      obtain rfl := Option.some.inj hb
      exact sameButOrder_of_isReordering item item' hfirst
    | succ i => exact hsame i a b ha hb

theorem of_membersAreReorderings :
    (members members' : List (Option String × Document)) →
      membersAreReorderings members members' = true →
      ∀ key item item', (key, item) ∈ members → (key, item') ∈ members' → item.SameButOrder item'
  | [], _, _ => nofun
  | (name, first) :: members, members', h => by
    obtain ⟨hfirst, hrest⟩ := Bool.and_eq_true_iff.1 h
    intro key item item' hmem hmem'
    rcases List.mem_cons.1 hmem with heq | hmem
    · obtain ⟨rfl, rfl⟩ := Prod.mk.inj heq
      have hall := List.all_eq_true.1 hfirst (key, item') hmem'
      exact sameButOrder_of_isReordering item item' (by simpa using hall)
    · exact of_membersAreReorderings members members' hrest key item item' hmem hmem'

end

mutual

theorem isReordering_of_sameButOrder :
    (d d' : Document) → d.SameButOrder d' → isReordering d d' = true
  | _, _, .null => rfl
  | _, _, .bool value => by simp [isReordering]
  | _, _, .num literal => by simp [isReordering]
  | _, _, .str content => by simp [isReordering]
  | .arr items _, .arr items' _, .arr hlength h => by
    simp only [isReordering, Bool.true_and]
    exact areReorderings_of_forall items items' hlength h
  | .obj members _, .obj members' _, .obj hkeys hnodup h => by
    simp only [isReordering, Bool.true_and, Bool.and_eq_true, decide_eq_true_eq]
    exact ⟨⟨hkeys, hnodup⟩, membersAreReorderings_of_forall members members' h⟩

theorem areReorderings_of_forall :
    (items items' : List Document) → items.length = items'.length →
      (∀ (i : Nat) item item', items[i]? = some item → items'[i]? = some item' →
        item.SameButOrder item') → areReorderings items items' = true
  | [], [], _, _ => rfl
  | item :: items, item' :: items', hlength, h => by
    refine Bool.and_eq_true_iff.2 ⟨isReordering_of_sameButOrder item item' (h 0 _ _ rfl rfl), ?_⟩
    exact areReorderings_of_forall items items' (Nat.succ.inj hlength) fun i ↦ h (i + 1)

theorem membersAreReorderings_of_forall :
    (members members' : List (Option String × Document)) →
      (∀ key item item', (key, item) ∈ members → (key, item') ∈ members' →
        item.SameButOrder item') → membersAreReorderings members members' = true
  | [], _, _ => rfl
  | (key, item) :: members, members', h => by
    refine Bool.and_eq_true_iff.2 ⟨List.all_eq_true.2 fun m hm ↦ ?_, ?_⟩
    · by_cases hkey : m.1 = key
      · have hsame := h key item m.2 List.mem_cons_self (hkey ▸ hm)
        simp [isReordering_of_sameButOrder item m.2 hsame]
      · simp [hkey]
    · exact membersAreReorderings_of_forall members members' fun key item item' hmem ↦
        h key item item' (List.mem_cons_of_mem _ hmem)

end

/-- **The order of members is all that differs**, as it is decided. -/
theorem isReordering_iff {d d' : Document} : isReordering d d' = true ↔ d.SameButOrder d' :=
  ⟨sameButOrder_of_isReordering d d', isReordering_of_sameButOrder d d'⟩

instance (d d' : Document) : Decidable (d.SameButOrder d') :=
  decidable_of_iff _ isReordering_iff

/-! ### What is the same -/

section

variable {d d' : Document} {members members' : List (Option String × Document)}

theorem values_eq_map (items : List Document) : values items = items.map value := by
  induction items with
  | nil => rfl
  | cons item items ih => rw [values, ih, List.map_cons]

/-- The members of a value make a dictionary. -/
theorem memberValues_eq (done : Dict Json) (members : List (Option String × Document)) :
    memberValues done.entries members =
      ((members.map fun m ↦ (m.1.getD "", m.2.value)).foldl
        (fun d e ↦ d.insert e.1 e.2) done).entries := by
  induction members generalizing done with
  | nil => rfl
  | cons m members ih =>
    show memberValues (done.insert (m.1.getD "") m.2.value).entries members = _
    rw [ih, List.map_cons, List.foldl_cons]

theorem value_obj (members : List (Option String × Document)) (closed : Bool) :
    (obj members closed).value =
      .obj (Dict.ofList (members.map fun m ↦ (m.1.getD "", m.2.value))).entries := by
  rw [value, Dict.ofList, ← memberValues_eq]
  rfl

/-- **The values are equal.** -/
theorem SameButOrder.value_eq (h : d.SameButOrder d') : d.value = d'.value := by
  induction h with
  | null | bool | num | str => rfl
  | @arr items items' hlength h ih =>
    rw [value, value, values_eq_map, values_eq_map]
    refine congrArg Json.arr (List.ext_getElem (by simpa using hlength) fun i hi hi' ↦ ?_)
    rw [List.getElem_map, List.getElem_map]
    exact ih i _ _ (List.getElem?_eq_getElem _) (List.getElem?_eq_getElem _)
  | @obj members members' hkeys hnodup h ih =>
    -- the members are inserted in two orders, each with one value
    have hperm : (members.map fun m ↦ (m.1.getD "", m.2.value)).Perm
        (members'.map fun m ↦ (m.1.getD "", m.2.value)) :=
      perm_map_of_keys hkeys fun key item item' hmem hmem' ↦ by rw [ih key item item' hmem hmem']
    rw [value_obj, value_obj, Dict.ofList_eq_of_perm hperm]
    rwa [List.map_map]

/-- What looks up in both finds documents that are the same but for the order. -/
theorem SameButOrder.get? (h : d.SameButOrder d') (key : String) :
    Option.Rel SameButOrder (d.get? key) (d'.get? key) := by
  cases h with
  | null | bool | num | str | arr => exact .none
  | @obj members members' hkeys hnodup h =>
    have hnodup₁ := nodup_keys_of_nodup_names hnodup
    have hnodup₂ := nodup_keys_of_nodup_names (nodup_names_of_perm hkeys hnodup)
    show Option.Rel _ (members.reverse.lookup (some key)) (members'.reverse.lookup (some key))
    rw [lookup_reverse_of_nodup hnodup₁, lookup_reverse_of_nodup hnodup₂]
    exact rel_lookup_of_keys hkeys hnodup₁ h (some key)

end

/-! ### Texts -/

/-- The texts are JSON, and one value but for the order of the members of each object. -/
structure SameTextButOrder (text text' : String) : Prop where
  /-- Nothing follows the document. -/
  complete : (read text).2 = false
  complete' : (read text').2 = false
  same : (read text).1.SameButOrder (read text').1

/-- A text is read off its characters. -/
theorem read_eq (text : String) : read text =
    ((build (Token.scanUpTo text.toList.length text.toList) [] .value).1,
      !(build (Token.scanUpTo text.toList.length text.toList) [] .value).2.isEmpty) := by
  rw [String.length_toList]
  rfl

end Json.Document

end PullCache
