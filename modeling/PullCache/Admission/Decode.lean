import PullCache.Admission.Review
import PullCache.Pod.Basic

/-!
# The pod of a request

A request is about a pod when it carries an object, the object is not known to be of another kind,
and it looks like a pod. The errors are looked for in this order.
-/

namespace PullCache

/-- Why a request has no pod. -/
inductive DecodeError where
  | missingObject
  | wrongKind (kind : String)
  | invalid
deriving DecidableEq, Repr

namespace DecodeError

/-- The wording of each error. -/
def message : DecodeError → String
  | missingObject => "admission request carries no object"
  | wrongKind kind => "admission request object is a " ++ kind ++ ", not a Pod"
  | invalid => "admission request object is not a valid pod: <detail>"

end DecodeError

namespace AdmissionRequest

/-- The pod that a request is about. -/
def pod (request : AdmissionRequest) : Except DecodeError Pod :=
  match request.object with
  | none => .error .missingObject
  | some object =>
    match object.type.filter fun type ↦ type.kind != "Pod" with
    | some type => .error (.wrongKind type.kind)
    | none =>
      match Pod.ofJson? object.toJson with
      | some pod => .ok pod
      | none => .error .invalid

/-- A request has a pod when its object is not known to be of another kind and reads as that pod. -/
theorem pod_eq_ok_iff {request : AdmissionRequest} {pod : Pod} : request.pod = .ok pod ↔
    ∃ object, request.object = some object ∧
      (∀ type, object.type = some type → type.kind = "Pod") ∧
      Pod.ofJson? object.toJson = some pod := by
  have hread : ∀ read : Option Pod, (match read with
      | some pod => .ok pod
      | none => .error .invalid : Except DecodeError Pod) = .ok pod ↔ read = some pod := by
    rintro (- | read) <;> simp
  unfold AdmissionRequest.pod
  rcases request.object with - | object
  · simp
  · rcases hother : object.type.filter fun type ↦ type.kind != "Pod" with - | type
    · have hkind : ∀ type, object.type = some type → type.kind = "Pod" := by
        simpa [Option.filter_eq_none_iff] using hother
      simpa [hother, hread] using fun _ ↦ hkind
    · obtain ⟨htype, hkind⟩ := Option.filter_eq_some_iff.1 hother
      have hne : type.kind ≠ "Pod" := by simpa using hkind
      simp [htype, hne, Option.filter]

end AdmissionRequest

end PullCache
