import PullCache.Admission.Webhook

/-!
# Answers as they are sent

An answer goes out as a review of its own. The patch is sent as the numbers of its bytes.
-/

namespace PullCache

/-- Members for the parts that are there. -/
def presentMembers (parts : List (String × Option String)) : List (String × Json) :=
  parts.filterMap fun (key, part) ↦ part.map fun text ↦ (key, .str text)

/-- An outcome as a value. -/
def Outcome.toJson (outcome : Outcome) : Json :=
  .obj (presentMembers
    [("status", outcome.summary), ("message", outcome.message), ("reason", outcome.reason)])

/-- The bytes of a patch as a value. -/
def Patch.toWire (patch : Patch) : Json :=
  .arr (patch.text.toUTF8.toList.map fun byte ↦ .num (toString byte.toNat))

/-- The review that an answer is sent as. -/
def AdmissionResponse.toJson (response : AdmissionResponse) : Json :=
  let patch := match response.patch with
    | some patch => [("patch", patch.toWire), ("patchType", .str "JSONPatch")]
    | none => []
  .obj
    [("apiVersion", .str response.type.apiVersion), ("kind", .str response.type.kind),
     ("response", .obj
       ([("uid", .str response.uid), ("allowed", .bool response.allowed),
         ("status", response.outcome.toJson)] ++ patch))]

end PullCache
