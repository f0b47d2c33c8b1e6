import Mathlib.Data.List.Basic
import PullCache.Patch.Diff
import PullCache.Json.Normal

/-!
# Carrying out a difference elsewhere

A difference is found between two values and carried out on a third, which is like the first where
the two differ, and may be any other elsewhere. `Json.Carries` says that this leads to a fourth
value. It is enough to look at one member at a time (`Json.carries_obj`) and at one item at a time
(`Json.carries_arr`), as long as no member is lost and no item is added or lost.
-/

namespace PullCache

/-! ### Changes further in -/

namespace PatchOp

variable {op : PatchOp} {key : String} {child child' : Json} {d : Dict Json} {items : List Json}
  {i : ℕ}

theorem path_under (op : PatchOp) (key : String) : (op.under key).path = key :: op.path := by
  cases op <;> rfl

/-- Decimals tell numbers apart. -/
theorem eq_of_toString_eq {j : ℕ} (h : toString i = toString j) : i = j := by
  have hdigits : Nat.toDigits 10 i = Nat.toDigits 10 j := by
    rw [← Nat.toList_repr, ← Nat.toList_repr]
    exact congrArg String.toList h
  rw [← Nat.ofDigitChars_toDigits (b := 10) (n := i) (by decide) (by decide), hdigits,
    Nat.ofDigitChars_toDigits (by decide) (by decide)]

theorem index?_toString {size : ℕ} (h : i < size) : index? (toString i) size = some i := by
  rw [index?, List.find?_range_eq_some]
  refine ⟨by simp, List.mem_range.2 h, fun j hj ↦ ?_⟩
  have hne : toString j ≠ toString i := fun heq ↦ Nat.ne_of_lt hj (eq_of_toString_eq heq)
  simpa using hne

/-- A change to a member of an object. -/
theorem applied?_under_obj (hget : d.get? key = some child) (h : op.applied? child = some child') :
    (op.under key).applied? (.obj d.entries) = some (.obj (d.insert key child').entries) := by
  have hlookup : d.entries.lookup key = some child := hget
  have hparent : ∀ change token path, atParent? change (token :: path) child = some child' →
      atParent? change (key :: token :: path) (.obj d.entries) =
        some (.obj (d.insert key child').entries) := by
    intro change token path hchild
    simp [atParent?, hlookup, hchild, Dict.insert]
  -- the change is one of the member itself, or its path goes on inside the member
  cases op with
  | add path new =>
    rcases path with - | ⟨token, path⟩
    · obtain rfl := Option.some.inj h
      rfl
    · exact hparent _ token path h
  | remove path =>
    rcases path with - | ⟨token, path⟩
    · cases h
    · exact hparent _ token path h
  | replace path new =>
    rcases path with - | ⟨token, path⟩
    · obtain rfl := Option.some.inj h
      show replaceIn? new (.obj d.entries) key = _
      rw [replaceIn?, hlookup]
      rfl
    · exact hparent _ token path h

/-- A change to an item of an array. To add an item is no change to the one at its index. -/
theorem applied?_under_arr (hget : items[i]? = some child) (h : op.applied? child = some child')
    (hadd : ∀ new, op ≠ .add [] new) :
    (op.under (toString i)).applied? (.arr items) = some (.arr (items.set i child')) := by
  have hi : i < items.length := (List.getElem?_eq_some_iff.1 hget).1
  have hparent : ∀ change token path, atParent? change (token :: path) child = some child' →
      atParent? change (toString i :: token :: path) (.arr items) =
        some (.arr (items.set i child')) := by
    intro change token path hchild
    rw [atParent?, index?_toString hi]
    simp [hget, hchild]
  cases op with
  | add path new =>
    rcases path with - | ⟨token, path⟩
    · exact absurd rfl (hadd new)
    · exact hparent _ token path h
  | remove path =>
    rcases path with - | ⟨token, path⟩
    · cases h
    · exact hparent _ token path h
  | replace path new =>
    rcases path with - | ⟨token, path⟩
    · obtain rfl := Option.some.inj h
      show replaceIn? new (.arr items) (toString i) = _
      rw [replaceIn?, index?_toString hi]
      rfl
    · exact hparent _ token path h

end PatchOp

namespace Patch

variable {patch : Patch} {key : String} {child child' : Json} {d : Dict Json} {items : List Json}
  {i : ℕ}

theorem applied?_cons (op : PatchOp) (patch : Patch) (value : Json) :
    applied? (op :: patch) value = (op.applied? value).bind (applied? patch) := rfl

theorem applied?_append (patch more : Patch) (value : Json) :
    applied? (patch ++ more) value = (patch.applied? value).bind (applied? more) :=
  List.foldlM_append

/-- Changes to a member of an object. -/
theorem applied?_map_under_obj (hget : d.get? key = some child)
    (h : patch.applied? child = some child') :
    applied? (patch.map (.under key)) (.obj d.entries) =
      some (.obj (d.insert key child').entries) := by
  induction patch generalizing d child with
  | nil =>
    obtain rfl := Option.some.inj h
    rw [Dict.insert_eq_self hget]
    rfl
  | cons op patch ih =>
    rw [applied?_cons] at h
    obtain ⟨next, hop, hpatch⟩ := Option.bind_eq_some_iff.1 h
    have hnext : (d.insert key next).get? key = some next := by simp
    rw [List.map_cons, applied?_cons, PatchOp.applied?_under_obj hget hop, Option.bind_some,
      ih hnext hpatch, Dict.insert_insert]

/-- Changes to an item of an array. -/
theorem applied?_map_under_arr (hget : items[i]? = some child)
    (h : patch.applied? child = some child') (hadd : ∀ new, .add [] new ∉ patch) :
    applied? (patch.map (.under (toString i))) (.arr items) =
      some (.arr (items.set i child')) := by
  induction patch generalizing items child with
  | nil =>
    obtain rfl := Option.some.inj h
    obtain ⟨hi, rfl⟩ := List.getElem?_eq_some_iff.1 hget
    rw [List.set_getElem_self]
    rfl
  | cons op patch ih =>
    rw [applied?_cons] at h
    obtain ⟨next, hop, hpatch⟩ := Option.bind_eq_some_iff.1 h
    have hi : i < items.length := (List.getElem?_eq_some_iff.1 hget).1
    have hnext : (items.set i next)[i]? = some next := by simp [hi]
    have hopadd : ∀ new, op ≠ .add [] new := by
      rintro new rfl
      exact hadd new List.mem_cons_self
    rw [List.map_cons, applied?_cons, PatchOp.applied?_under_arr hget hop hopadd, Option.bind_some,
      ih hnext hpatch fun new hmem ↦ hadd new (List.mem_cons_of_mem _ hmem), List.set_set]

end Patch

namespace Json

/-! ### What a difference is made of -/

/-- The changes to a member that was there before or not. -/
def memberChanges (old : Option Json) (key : String) (new : Json) : Patch :=
  match old with
  | some old => (diff old new).map (.under key)
  | none => [.add [key] new]

theorem diffMembers_cons (olds : List (String × Json)) (key : String) (new : Json)
    (news : List (String × Json)) : diffMembers olds ((key, new) :: news) =
      memberChanges (olds.lookup key) key new ++ diffMembers olds news := by
  rw [diffMembers]
  rcases olds.lookup key with - | old <;> rfl

/-- The changes to a member are made at it or inside it. -/
theorem exists_path_of_mem_memberChanges {old : Option Json} {key : String} {new : Json}
    {op : PatchOp} (h : op ∈ memberChanges old key new) : ∃ rest, op.path = key :: rest := by
  rcases old with - | old
  · obtain rfl := List.mem_singleton.1 h
    exact ⟨[], rfl⟩
  · obtain ⟨inner, -, rfl⟩ := List.mem_map.1 h
    exact ⟨inner.path, inner.path_under key⟩

theorem exists_path_of_mem_diffMembers {olds news : List (String × Json)} {op : PatchOp}
    (h : op ∈ diffMembers olds news) : ∃ m ∈ news, ∃ rest, op.path = m.1 :: rest := by
  induction news with
  | nil => cases h
  | cons m news ih =>
    rw [diffMembers_cons, List.mem_append] at h
    rcases h with h | h
    · exact ⟨m, List.mem_cons_self, exists_path_of_mem_memberChanges h⟩
    · obtain ⟨m', hm', hpath⟩ := ih h
      exact ⟨m', List.mem_cons_of_mem _ hm', hpath⟩

/-- The changes to items from an index on are made at those indices or inside the items there. -/
theorem exists_path_of_mem_diffItems {olds news : List Json} {i : ℕ} {op : PatchOp}
    (h : op ∈ diffItems i olds news) : ∃ j rest, i ≤ j ∧ op.path = toString j :: rest := by
  induction news generalizing olds i with
  | nil =>
    rw [diffItems] at h
    obtain ⟨old, -, rfl⟩ := List.mem_map.1 h
    exact ⟨i, [], Nat.le_refl i, rfl⟩
  | cons new news ih =>
    have hlater : ∀ {olds}, op ∈ diffItems (i + 1) olds news →
        ∃ j rest, i ≤ j ∧ op.path = toString j :: rest := by
      intro olds h
      obtain ⟨j, rest, hj, hpath⟩ := ih h
      exact ⟨j, rest, by omega, hpath⟩
    cases olds with
    | nil =>
      rw [diffItems] at h
      rcases List.mem_cons.1 h with rfl | h
      · exact ⟨i, [], Nat.le_refl i, rfl⟩
      · exact hlater h
    | cons old olds =>
      rw [diffItems, List.mem_append] at h
      rcases h with h | h
      · obtain ⟨inner, -, rfl⟩ := List.mem_map.1 h
        exact ⟨i, inner.path, Nat.le_refl i, inner.path_under _⟩
      · exact hlater h

/-- The value itself is replaced when it is not changed further in; nothing is added in its
place. -/
theorem add_nil_notMem_diff (old new value : Json) : .add [] value ∉ diff old new := by
  intro h
  have hscalar : ∀ new : Json,
      PatchOp.add [] value ∉ if old = new then [] else [PatchOp.replace [] new] := by
    intro new hmem
    split at hmem <;> simp at hmem
  cases new with
  | obj members =>
    cases old with
    | obj olds =>
      rw [diff, List.mem_append] at h
      rcases h with h | h
      · obtain ⟨m, -, rest, hpath⟩ := exists_path_of_mem_diffMembers h
        cases hpath
      · obtain ⟨m, -, hm⟩ := List.mem_map.1 h
        cases hm
    | _ => simp [diff] at h
  | arr items =>
    cases old with
    | arr olds =>
      obtain ⟨j, rest, -, hpath⟩ := exists_path_of_mem_diffItems h
      cases hpath
    | _ => simp [diff] at h
  | _ => exact hscalar _ h

/-- No member is removed when none is lost. -/
theorem removeLost_eq_nil {old new : Dict Json}
    (h : ∀ key value, old.get? key = some value → (new.get? key).isSome) :
    removeLost new.entries old.entries = [] := by
  rw [removeLost, List.map_eq_nil_iff, List.filter_eq_nil_iff]
  rintro ⟨key, value⟩ hm
  have hnew : (new.entries.lookup key).isSome := h key value (Dict.get?_of_mem hm)
  rw [← Option.not_isSome, hnew]
  decide

theorem diffItems_self (items : List Json) (i : ℕ) (h : ∀ item ∈ items, diff item item = []) :
    diffItems i items items = [] := by
  induction items generalizing i with
  | nil => rfl
  | cons item items ih =>
    obtain ⟨hitem, hitems⟩ := List.forall_mem_cons.1 h
    rw [diffItems, hitem, ih (i + 1) hitems]
    rfl

/-- Members that an object has do not differ from its own. -/
theorem diffMembers_self {d : Dict Json} {members : List (String × Json)}
    (hmembers : ∀ m ∈ members, d.get? m.1 = some m.2) (h : ∀ m ∈ members, diff m.2 m.2 = []) :
    diffMembers d.entries members = [] := by
  induction members with
  | nil => rfl
  | cons m members ih =>
    obtain ⟨hget, hmembers⟩ := List.forall_mem_cons.1 hmembers
    obtain ⟨hm, h⟩ := List.forall_mem_cons.1 h
    have hlookup : d.entries.lookup m.1 = some m.2 := hget
    rw [diffMembers_cons, hlookup, ih hmembers h, memberChanges, hm]
    rfl

/-- **A normal value does not differ from itself.** -/
theorem diff_self {value : Json} (h : value.IsNormal) : diff value value = [] := by
  induction h with
  | null | bool | num | str => simp [diff]
  | @arr items h ih => exact diffItems_self items 0 ih
  | @obj d h ih =>
    have hmembers : ∀ m ∈ d.entries, d.get? m.1 = some m.2 := fun m ↦ Dict.get?_of_mem
    rw [diff, diffMembers_self hmembers fun m hm ↦ ih m.1 m.2 (hmembers m hm), List.nil_append]
    exact removeLost_eq_nil fun key value hget ↦ by rw [hget]; rfl

/-- Members that are alike, one of them apart, do not differ. -/
theorem diffMembers_of_same {old : Dict Json} (hold : old.IsNormal) {key : String}
    {news : List (String × Json)} (hsorted : news.Pairwise fun a b ↦ a.1 < b.1)
    (hother : ∀ m ∈ news, m.1 ≠ key → old.get? m.1 = some m.2) :
    diffMembers old.entries news =
      ((news.lookup key).map (memberChanges (old.get? key) key)).getD [] := by
  induction news with
  | nil => rfl
  | cons m news ih =>
    obtain ⟨q, new⟩ := m
    obtain ⟨hfirst, hsorted⟩ := List.pairwise_cons.1 hsorted
    obtain ⟨hm, hnews⟩ := List.forall_mem_cons.1 hother
    rw [diffMembers_cons, List.lookup_cons]
    by_cases hq : q = key
    · -- no later member has this name
      have hlater : ∀ m ∈ news, old.get? m.1 = some m.2 := by
        intro m hmem
        refine hnews m hmem fun hkey ↦ ?_
        have hlt := hfirst m hmem
        rw [hkey, ← hq] at hlt
        exact String.lt_irrefl q hlt
      rw [diffMembers_self hlater fun m hmem ↦ diff_self (hold m.1 m.2 (hlater m hmem)),
        List.append_nil, hq, beq_self_eq_true]
      rfl
    · have hget : old.entries.lookup q = some new := hm hq
      rw [hget, memberChanges, diff_self (hold q new (hm hq)), beq_eq_false_iff_ne.2 (Ne.symm hq)]
      exact ih hsorted hnews

/-- **Objects that are alike but for one member** differ by the changes to it. -/
theorem diff_obj_of_same {old new : Dict Json} (hold : old.IsNormal) {key : String} {value : Json}
    (hget : new.get? key = some value) (hother : ∀ q, q ≠ key → new.get? q = old.get? q) :
    diff (.obj old.entries) (.obj new.entries) = memberChanges (old.get? key) key value := by
  have hkept : ∀ q o, old.get? q = some o → (new.get? q).isSome := by
    intro q o ho
    by_cases hq : q = key
    · rw [hq, hget]
      rfl
    · rw [hother q hq, ho]
      rfl
  have hnews : ∀ m ∈ new.entries, m.1 ≠ key → old.get? m.1 = some m.2 := fun m hm hkey ↦
    (hother m.1 hkey).symm.trans (Dict.get?_of_mem hm)
  have hlookup : new.entries.lookup key = some value := hget
  rw [diff, removeLost_eq_nil hkept, List.append_nil, diffMembers_of_same hold new.sorted hnews,
    hlookup]
  rfl

/-! ### Carrying out -/

/-- The changes that lead from one value to another lead from a third to a fourth. -/
def Carries (old new value value' : Json) : Prop :=
  (diff old new).applied? value = some value'

/-- What becomes of one member, which each of the four objects may have or lack. -/
inductive CarriesMember : Option Json → Option Json → Option Json → Option Json → Prop
  | same {old value : Option Json} (h : ∀ o, old = some o → o.IsNormal) :
    CarriesMember old old value value
  | added {new : Json} {value : Option Json} : CarriesMember none (some new) value (some new)
  | changed {old new value value' : Json} (h : Carries old new value value') :
    CarriesMember (some old) (some new) (some value) (some value')

theorem carries_refl {old : Json} (h : old.IsNormal) (value : Json) :
    Carries old old value value := by
  rw [Carries, diff_self h]
  rfl

/-- A string is put for a string. -/
theorem carries_str (old new : String) : Carries (.str old) (.str new) (.str old) (.str new) := by
  by_cases h : old = new
  · rw [h]
    exact carries_refl (.str new) _
  · have hdiff : diff (.str old) (.str new) = [.replace [] (.str new)] :=
      if_neg fun heq ↦ h (Json.str.inj heq)
    rw [Carries, hdiff]
    rfl

/-- A member that both objects have alike. -/
theorem carriesMember_of_eq {old new value value' : Dict Json} (hold : old.IsNormal) {key : String}
    (hnew : new.get? key = old.get? key) (hvalue : value'.get? key = value.get? key) :
    CarriesMember (old.get? key) (new.get? key) (value.get? key) (value'.get? key) := by
  rw [hnew, hvalue]
  exact .same fun o ho ↦ hold key o ho

theorem CarriesMember.isSome {old : Json} {new value value' : Option Json}
    (h : CarriesMember (some old) new value value') : new.isSome := by
  cases h <;> rfl

theorem CarriesMember.eq_of_none {old value value' : Option Json}
    (h : CarriesMember old none value value') : value' = value := by
  cases h
  rfl

/-- The changes to one member leave the others as they are. -/
theorem CarriesMember.exists_applied {old value value' : Option Json} {new : Json}
    (h : CarriesMember old (some new) value value') {d : Dict Json} {key : String}
    (hget : d.get? key = value) :
    ∃ d' : Dict Json,
      (memberChanges old key new).applied? (.obj d.entries) = some (.obj d'.entries) ∧
        ∀ q, d'.get? q = if q = key then value' else d.get? q := by
  cases h with
  | same h =>
    refine ⟨d, ?_, fun q ↦ ?_⟩
    · show Patch.applied? ((diff new new).map _) _ = _
      rw [diff_self (h new rfl)]
      rfl
    · by_cases hq : q = key
      · rw [if_pos hq, hq, hget]
      · rw [if_neg hq]
  | added => exact ⟨d.insert key new, rfl, fun q ↦ Dict.get?_insert d key new q⟩
  | @changed _ _ _ child' h =>
    exact ⟨d.insert key child', Patch.applied?_map_under_obj hget h,
      fun q ↦ Dict.get?_insert d key child' q⟩

/-- The changes to some members are made one after the other: when only those to `news` are still to
be made, `d` is the object so far. -/
theorem applied?_diffMembers {old value value' d : Dict Json} {news : List (String × Json)}
    (hsorted : news.Pairwise fun a b ↦ a.1 < b.1)
    (h : ∀ m ∈ news,
      CarriesMember (old.get? m.1) (some m.2) (value.get? m.1) (value'.get? m.1))
    (hd : ∀ q, d.get? q = if q ∈ news.map Prod.fst then value.get? q else value'.get? q) :
    (diffMembers old.entries news).applied? (.obj d.entries) = some (.obj value'.entries) := by
  induction news generalizing d with
  | nil =>
    rw [Dict.ext_get? fun q ↦ (hd q).trans (if_neg List.not_mem_nil)]
    rfl
  | cons m news ih =>
    obtain ⟨key, new⟩ := m
    obtain ⟨hfirst, hsorted⟩ := List.pairwise_cons.1 hsorted
    obtain ⟨hm, h⟩ := List.forall_mem_cons.1 h
    obtain ⟨d', hstep, hd'⟩ := hm.exists_applied ((hd key).trans (if_pos List.mem_cons_self))
    have hlater : key ∉ news.map Prod.fst := by
      intro hmem
      obtain ⟨e, he, hekey⟩ := List.mem_map.1 hmem
      have hlt := hfirst e he
      rw [hekey] at hlt
      exact String.lt_irrefl key hlt
    have hrest : ∀ q, d'.get? q =
        if q ∈ news.map Prod.fst then value.get? q else value'.get? q := by
      intro q
      simp only [hd', hd, List.map_cons, List.mem_cons]
      by_cases hq : q = key
      · rw [if_pos hq, hq, if_neg hlater]
      · simp only [hq, false_or, ↓reduceIte]
    rw [diffMembers_cons, Patch.applied?_append,
      show (memberChanges (old.entries.lookup key) key new).applied? _ = _ from hstep,
      Option.bind_some, ih hsorted h hrest]

/-- **Objects are carried member by member.** -/
theorem carries_obj {old new value value' : Dict Json}
    (h : ∀ key, CarriesMember (old.get? key) (new.get? key) (value.get? key) (value'.get? key)) :
    Carries (.obj old.entries) (.obj new.entries) (.obj value.entries) (.obj value'.entries) := by
  have hkept : ∀ key o, old.get? key = some o → (new.get? key).isSome := by
    intro key o ho
    have hkey := h key
    rw [ho] at hkey
    exact hkey.isSome
  have hnews : ∀ m ∈ new.entries,
      CarriesMember (old.get? m.1) (some m.2) (value.get? m.1) (value'.get? m.1) := by
    intro m hm
    have hkey := h m.1
    rwa [Dict.get?_of_mem hm] at hkey
  rw [Carries, diff, removeLost_eq_nil hkept, List.append_nil]
  refine applied?_diffMembers new.sorted hnews fun q ↦ ?_
  split
  · rfl
  · next hq =>
    -- a member that the new object lacks is not touched
    have hkey := h q
    rw [Dict.get?_eq_none_of_notMem hq] at hkey
    exact hkey.eq_of_none.symm

/-- The changes to items are made one after the other, those in `done` having been carried. -/
theorem applied?_diffItems {α : Type} {old new value value' : α → Json} {l : List α}
    (h : ∀ a ∈ l, Carries (old a) (new a) (value a) (value' a)) (done : List Json) :
    (diffItems done.length (l.map old) (l.map new)).applied? (.arr (done ++ l.map value)) =
      some (.arr (done ++ l.map value')) := by
  induction l generalizing done with
  | nil => rfl
  | cons a l ih =>
    obtain ⟨ha, hl⟩ := List.forall_mem_cons.1 h
    have hget : (done ++ (a :: l).map value)[done.length]? = some (value a) := by simp
    have hset : (done ++ (a :: l).map value).set done.length (value' a) =
        (done ++ [value' a]) ++ l.map value := by simp
    have hrest := ih hl (done ++ [value' a])
    rw [List.length_append, List.length_singleton] at hrest
    rw [List.map_cons, List.map_cons, diffItems, Patch.applied?_append,
      Patch.applied?_map_under_arr hget ha (add_nil_notMem_diff _ _), Option.bind_some, hset,
      hrest, List.append_assoc]
    rfl

/-- **Arrays of one length are carried item by item.** -/
theorem carries_arr {α : Type} {old new value value' : α → Json} {l : List α}
    (h : ∀ a ∈ l, Carries (old a) (new a) (value a) (value' a)) :
    Carries (.arr (l.map old)) (.arr (l.map new)) (.arr (l.map value)) (.arr (l.map value')) :=
  applied?_diffItems h []

end Json

end PullCache
