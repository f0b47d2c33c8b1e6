/-!
# Cutting text at a separator

The texts of this library are read as lists of characters. `cutFirst` and `cutLast` part a text at
the first and at the last occurrence of a separator, and `components` at every one. Each is pinned
down by the equation that puts the parts together again: `cutFirst_eq_some_iff`,
`cutLast_eq_some_iff`, `joinWith_components`.
-/

namespace PullCache.Text

/-- The text before and after the first `sep`, if `sep` occurs. -/
def cutFirst (sep : Char) (text : List Char) : Option (List Char × List Char) :=
  match text.dropWhile (· != sep) with
  | [] => none
  | _ :: after => some (text.takeWhile (· != sep), after)

/-- The text before and after the last `sep`, if `sep` occurs. -/
def cutLast (sep : Char) (text : List Char) : Option (List Char × List Char) :=
  (cutFirst sep text.reverse).map fun (after, before) ↦ (before.reverse, after.reverse)

/-- The parts of a text between its separators; a text without one is its own single part. -/
def components (sep : Char) : List Char → List (List Char)
  | [] => [[]]
  | c :: cs =>
    if c = sep then [] :: components sep cs
    else
      match components sep cs with
      | [] => [[c]]
      | part :: parts => (c :: part) :: parts

/-- Puts parts together with a separator between any two of them. -/
def joinWith (sep : Char) : List (List Char) → List Char
  | [] => []
  | [part] => part
  | part :: next :: parts => part ++ sep :: joinWith sep (next :: parts)

/-- The number of bytes a text takes in UTF-8. -/
def byteLength : List Char → Nat
  | [] => 0
  | c :: cs => c.utf8Size + byteLength cs

/-! ### Laws of the cuts -/

theorem cutFirst_eq_none_iff {sep : Char} {text : List Char} :
    cutFirst sep text = none ↔ sep ∉ text := by
  unfold cutFirst
  induction text with
  | nil => simp
  | cons c cs ih =>
    by_cases h : c = sep
    · simp [h]
    · simp only [List.dropWhile_cons, bne_iff_ne, ne_eq, h, not_false_eq_true, ↓reduceIte,
        List.mem_cons, Ne.symm h, false_or, ← ih]
      split <;> simp_all

theorem cutFirst_append {sep : Char} {before : List Char} (h : sep ∉ before) (after : List Char) :
    cutFirst sep (before ++ sep :: after) = some (before, after) := by
  have hall : ∀ c ∈ before, (c != sep) = true := by
    intro c hc
    simp only [bne_iff_ne, ne_eq]
    rintro rfl
    exact h hc
  unfold cutFirst
  rw [List.dropWhile_append_of_pos hall, List.takeWhile_append_of_pos hall]
  simp

/-- **A cut loses nothing** but the separator, and what stands before it is free of it. -/
theorem cutFirst_eq_some_iff {sep : Char} {text before after : List Char} :
    cutFirst sep text = some (before, after) ↔ text = before ++ sep :: after ∧ sep ∉ before := by
  constructor
  · intro h
    have hmem : sep ∈ text := by
      by_cases hm : sep ∈ text
      · exact hm
      · rw [cutFirst_eq_none_iff.2 hm] at h
        cases h
    obtain ⟨a, b, rfl, ha⟩ := List.eq_append_cons_of_mem hmem
    rw [cutFirst_append ha] at h
    cases h
    exact ⟨rfl, ha⟩
  · rintro ⟨rfl, h⟩
    exact cutFirst_append h after

/-- A text has one first separator. -/
theorem eq_of_append_sep_eq {sep : Char} {before before' after after' : List Char}
    (h : before ++ sep :: after = before' ++ sep :: after') (hbefore : sep ∉ before)
    (hbefore' : sep ∉ before') : before = before' ∧ after = after' := by
  have hcut := cutFirst_append hbefore after
  rw [h, cutFirst_append hbefore' after', Option.some.injEq, Prod.mk.injEq] at hcut
  exact ⟨hcut.1.symm, hcut.2.symm⟩

theorem cutLast_eq_none_iff {sep : Char} {text : List Char} :
    cutLast sep text = none ↔ sep ∉ text := by
  simp [cutLast, cutFirst_eq_none_iff]

/-- **A cut at the last separator** leaves it out of what follows. -/
theorem cutLast_eq_some_iff {sep : Char} {text before after : List Char} :
    cutLast sep text = some (before, after) ↔ text = before ++ sep :: after ∧ sep ∉ after := by
  simp only [cutLast, Option.map_eq_some_iff, Prod.mk.injEq, Prod.exists, cutFirst_eq_some_iff]
  constructor
  · rintro ⟨a, b, ⟨hab, ha⟩, rfl, rfl⟩
    refine ⟨?_, by simpa using ha⟩
    have := congrArg List.reverse hab
    simpa using this
  · rintro ⟨rfl, h⟩
    exact ⟨after.reverse, before.reverse, ⟨by simp, by simpa using h⟩, by simp, by simp⟩

theorem components_ne_nil (sep : Char) (text : List Char) : components sep text ≠ [] := by
  induction text with
  | nil => simp [components]
  | cons c cs ih =>
    unfold components
    split
    · simp
    · split <;> simp

/-- **Nothing is lost between the separators**: the parts joined again are the text. -/
theorem joinWith_components (sep : Char) (text : List Char) :
    joinWith sep (components sep text) = text := by
  induction text with
  | nil => rfl
  | cons c cs ih =>
    unfold components
    split
    · next h =>
      rcases hparts : components sep cs with - | ⟨part, parts⟩
      · exact absurd hparts (components_ne_nil sep cs)
      · rw [hparts] at ih
        simp [joinWith, ih, h]
    · rcases hparts : components sep cs with - | ⟨part, parts⟩
      · exact absurd hparts (components_ne_nil sep cs)
      · rw [hparts] at ih
        rcases parts with - | ⟨next, parts⟩
        · simpa [joinWith] using ih
        · simpa [joinWith] using ih

/-- A text without separators is its own single part. -/
theorem components_of_notMem {sep : Char} {text : List Char} (h : sep ∉ text) :
    components sep text = [text] := by
  induction text with
  | nil => rfl
  | cons c cs ih =>
    obtain ⟨hc, hcs⟩ := not_or.1 (mt List.mem_cons.2 h)
    rw [components, if_neg (Ne.symm hc), ih hcs]

/-- A first part that is followed by a separator stands apart from the others. -/
theorem components_append {sep : Char} {before : List Char} (h : sep ∉ before)
    (after : List Char) :
    components sep (before ++ sep :: after) = before :: components sep after := by
  induction before with
  | nil => simp [components]
  | cons c cs ih =>
    obtain ⟨hc, hcs⟩ := not_or.1 (mt List.mem_cons.2 h)
    rw [List.cons_append, components, if_neg (Ne.symm hc), ih hcs]

/-- A character of the text is a separator or belongs to a part. -/
theorem exists_mem_components {sep c : Char} {text : List Char} (h : c ∈ text) (hc : c ≠ sep) :
    ∃ part ∈ components sep text, c ∈ part := by
  induction text with
  | nil => cases h
  | cons d ds ih =>
    unfold components
    rcases List.mem_cons.1 h with rfl | h
    · rw [if_neg hc]
      rcases components sep ds with - | ⟨part, parts⟩ <;> simp
    · obtain ⟨part, hpart, hcpart⟩ := ih h
      split
      · exact ⟨part, List.mem_cons_of_mem _ hpart, hcpart⟩
      · rcases hparts : components sep ds with - | ⟨first, parts⟩
        · exact absurd hparts (components_ne_nil sep ds)
        · rw [hparts] at hpart
          rcases List.mem_cons.1 hpart with rfl | hpart
          · exact ⟨d :: part, List.mem_cons_self, List.mem_cons_of_mem _ hcpart⟩
          · exact ⟨part, List.mem_cons_of_mem _ hpart, hcpart⟩

/-- The parts are made of characters of the text. -/
theorem mem_of_mem_components {sep c : Char} {text part : List Char}
    (hpart : part ∈ components sep text) (hc : c ∈ part) : c ∈ text := by
  induction text generalizing part with
  | nil =>
    rw [List.mem_singleton.1 hpart] at hc
    cases hc
  | cons d ds ih =>
    unfold components at hpart
    split at hpart
    · rcases List.mem_cons.1 hpart with rfl | hpart
      · cases hc
      · exact List.mem_cons_of_mem _ (ih hpart hc)
    · rcases hparts : components sep ds with - | ⟨first, parts⟩
      · exact absurd hparts (components_ne_nil sep ds)
      · rw [hparts] at hpart ih
        rcases List.mem_cons.1 hpart with rfl | hpart
        · rcases List.mem_cons.1 hc with rfl | hc
          · exact List.mem_cons_self
          · exact List.mem_cons_of_mem _ (ih List.mem_cons_self hc)
        · exact List.mem_cons_of_mem _ (ih (List.mem_cons_of_mem _ hpart) hc)

@[simp] theorem byteLength_nil : byteLength [] = 0 := rfl

@[simp] theorem byteLength_cons (c : Char) (cs : List Char) :
    byteLength (c :: cs) = c.utf8Size + byteLength cs := rfl

@[simp] theorem byteLength_append (a b : List Char) :
    byteLength (a ++ b) = byteLength a + byteLength b := by
  induction a with
  | nil => simp
  | cons c cs ih => simp [ih, Nat.add_assoc]

/-- A text of characters of one byte has as many bytes as characters. -/
theorem byteLength_eq_length {text : List Char} (h : ∀ c ∈ text, c.utf8Size = 1) :
    byteLength text = text.length := by
  induction text with
  | nil => rfl
  | cons c cs ih =>
    have hc := h c List.mem_cons_self
    have hcs := ih fun d hd ↦ h d (List.mem_cons_of_mem c hd)
    rw [byteLength_cons, hc, hcs, List.length_cons, Nat.add_comm]

/-- The bytes of a text's characters are the bytes of the text. -/
theorem byteLength_toList (s : String) : byteLength s.toList = s.utf8ByteSize := by
  have h : ∀ cs : List Char, byteLength cs = (String.ofList cs).utf8ByteSize := by
    intro cs
    induction cs with
    | nil => rfl
    | cons c cs ih =>
      rw [byteLength_cons, ih, show c :: cs = [c] ++ cs from rfl, String.ofList_append,
        String.utf8ByteSize_append, ← String.singleton_eq_ofList, String.utf8ByteSize_singleton]
  rw [h, String.ofList_toList]

end PullCache.Text
