import PullCache.Json.Shape

/-!
# Values that have a shape

`Shape.fits` goes through a value as it is written. For the records of this library, none of whose
fields has to be there, it asks only what each field looks up to (`fits_record_iff`). So a value
that has a shape keeps it when a field is set to a value of the field's shape
(`fits_record_insert`).
-/

namespace PullCache.Json.Shape

variable {fields : List (String × Shape × Bool)} {style : RecordStyle} {shape : Shape}
  {value : Json}

theorem membersFit_iff {members : List (String × Json)} : membersFit fields members = true ↔
    ∀ m ∈ members, ∀ field, fields.lookup m.1 = some field → fits field.1 m.2 = true := by
  induction members with
  | nil => simp [membersFit]
  | cons m members ih =>
    obtain ⟨key, first⟩ := m
    rw [membersFit, Bool.and_eq_true, ih, List.forall_mem_cons]
    refine and_congr_left fun _ ↦ ?_
    rcases fields.lookup key with - | field <;> simp

theorem itemsFit_iff {items : List Json} :
    itemsFit shape items = true ↔ ∀ item ∈ items, fits shape item = true := by
  induction items with
  | nil => simp [itemsFit]
  | cons item items ih => rw [itemsFit, Bool.and_eq_true, ih, List.forall_mem_cons]

/-- A dictionary asks the same of each value. -/
theorem fits_dict_iff {d : Dict Json} : fits (.dict shape) (.obj d.entries) = true ↔
    ∀ key value, d.get? key = some value → fits shape value = true := by
  have hvalues : ∀ members : List (String × Json),
      valuesFit shape members = true ↔ ∀ m ∈ members, fits shape m.2 = true := by
    intro members
    induction members with
    | nil => simp [valuesFit]
    | cons m members ih =>
      obtain ⟨key, first⟩ := m
      rw [valuesFit, Bool.and_eq_true, ih, List.forall_mem_cons]
  simp only [fits, base, hvalues, Prod.forall]
  exact forall₂_congr fun key value ↦ imp_congr_left (Dict.lookup_eq_some_iff d.sorted).symm

/-- A field that may be `null` holds that or a value of the inner shape. -/
theorem fits_nullable_iff :
    fits (.nullable shape) value = true ↔ value = .null ∨ fits shape value = true := by
  cases value <;> simp [fits, base, takesNull]

/-- **A record without required fields asks only what each field looks up to.** -/
theorem fits_record_iff (hfields : ∀ field ∈ fields, field.2.2 = false) {d : Dict Json} :
    fits (.record style fields) (.obj d.entries) = true ↔
      ∀ key value field, d.get? key = some value → fields.lookup key = some field →
        fits field.1 value = true := by
  have hrequired : (fields.all fun field ↦
      !field.2.2 || d.entries.any fun member ↦ member.1 == field.1) = true := by
    rw [List.all_eq_true]
    intro field hfield
    rw [hfields field hfield]
    rfl
  simp only [fits, base, Bool.and_eq_true]
  rw [and_iff_left hrequired, membersFit_iff]
  constructor
  · intro h key value field hget hlookup
    exact h (key, value) ((Dict.lookup_eq_some_iff d.sorted).1 hget) field hlookup
  · rintro h ⟨key, value⟩ hmem field hlookup
    exact h key value field ((Dict.lookup_eq_some_iff d.sorted).2 hmem) hlookup

/-- A record keeps its shape when a field is set to a value of the field's shape. -/
theorem fits_record_insert (hfields : ∀ field ∈ fields, field.2.2 = false) {d : Dict Json}
    (h : fits (.record style fields) (.obj d.entries) = true) {key : String}
    (hvalue : ∀ field, fields.lookup key = some field → fits field.1 value = true) :
    fits (.record style fields) (.obj (d.insert key value).entries) = true := by
  rw [fits_record_iff hfields] at h ⊢
  intro q other field hget hlookup
  rw [Dict.get?_insert] at hget
  split at hget
  · next hq =>
    subst hq
    rw [← Option.some.inj hget]
    exact hvalue field hlookup
  · exact h q other field hget hlookup

theorem fits_record_insert? (hfields : ∀ field ∈ fields, field.2.2 = false) {d : Dict Json}
    (h : fits (.record style fields) (.obj d.entries) = true) {key : String} {value : Option Json}
    (hvalue : ∀ v, value = some v → ∀ field, fields.lookup key = some field →
      fits field.1 v = true) :
    fits (.record style fields) (.obj (d.insert? key value).entries) = true := by
  cases value with
  | none => exact h
  | some value => exact fits_record_insert hfields h (hvalue value rfl)

end PullCache.Json.Shape
