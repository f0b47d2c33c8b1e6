import PullCache.Pod.Basic
import PullCache.Proofs.Json.Fits

/-!
# What the members of a pod hold

The shape of a pod, said for the members one by one.
-/

namespace PullCache.PodShape

open Json (Shape)
open Metadata (optionalField)

/-- No field of an object of the shape has to be there. -/
theorem fields_not_required (fields : List (String × Shape)) :
    ∀ field ∈ fields.map fun field ↦ optionalField field.1 field.2, field.2.2 = false := by
  simp [optionalField]

/-- **A value looks like a pod** when a version and a kind that are there are those of a pod, and
each other part that is there and not `null` has the shape of that part. -/
theorem fits_pod_iff {d : Dict Json} : pod.fits (.obj d.entries) = true ↔
    (∀ value, d.get? "apiVersion" = some value → value = .str "v1") ∧
    (∀ value, d.get? "kind" = some value → value = .str "Pod") ∧
    (∀ value, d.get? "metadata" = some value → Shape.fits (.nullable Metadata.shape) value = true) ∧
    (∀ value, d.get? "spec" = some value → Shape.fits (.nullable spec) value = true) ∧
    ∀ value, d.get? "status" = some value → Shape.fits (.nullable status) value = true := by
  have htext : ∀ (text : String) (value : Json),
      Shape.fits (.string (· == text)) value = true ↔ value = .str text := by
    intro text value
    cases value <;> simp [Shape.fits, Shape.base, Shape.takesNull]
  rw [pod, Shape.fits_record_iff (by simp [Metadata.optionalField])]
  constructor
  · intro h
    exact ⟨fun value hget ↦ (htext _ _).1 (h _ _ _ hget rfl),
      fun value hget ↦ (htext _ _).1 (h _ _ _ hget rfl), fun value hget ↦ h _ _ _ hget rfl,
      fun value hget ↦ h _ _ _ hget rfl, fun value hget ↦ h _ _ _ hget rfl⟩
  · rintro ⟨hversion, hkind, hmetadata, hspec, hstatus⟩ key value field hget hlookup
    obtain ⟨before, after, hfields, -⟩ := List.lookup_eq_some_iff.1 hlookup
    have hmem : (key, field) ∈ before ++ (key, field) :: after := by simp
    rw [← hfields] at hmem
    simp only [Metadata.optionalField, List.mem_cons, Prod.mk.injEq, List.not_mem_nil,
      or_false] at hmem
    rcases hmem with ⟨rfl, rfl⟩ | ⟨rfl, rfl⟩ | ⟨rfl, rfl⟩ | ⟨rfl, rfl⟩ | ⟨rfl, rfl⟩
    · exact (htext _ _).2 (hversion value hget)
    · exact (htext _ _).2 (hkind value hget)
    · exact hmetadata value hget
    · exact hspec value hget
    · exact hstatus value hget

end PullCache.PodShape
