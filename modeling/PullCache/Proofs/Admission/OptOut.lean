import PullCache.Proofs.Admission.Changes

/-!
# The answer for a pod whose owner has opted out

A pod whose owner has opted out is only marked: its own annotation is set to whether it is managed.
`Pod.annotationChanges` is all that this changes in the written form, so the patch of the answer can
be told from labels and annotations alone. What the pod is to run does not come into it, nor does
the configuration (`Webhook.handle_patch_of_optedOut`).
-/

namespace PullCache

open Json (memberChanges)

/-! ### Setting an annotation -/

namespace Metadata

variable {m : Metadata} {key value : String}

/-- A dictionary of strings differs at the key that is set. -/
theorem diff_jsonOfTexts_insert (d : Dict String) (key value : String) :
    Json.diff (jsonOfTexts d) (jsonOfTexts (d.insert key value)) =
      memberChanges ((d.get? key).map Json.str) key (.str value) := by
  have hget : ∀ q, ((d.insert key value).map Json.str).get? q =
      if q = key then some (.str value) else (d.map Json.str).get? q := by
    intro q
    rw [Dict.get?_map, Dict.get?_insert, Dict.get?_map]
    by_cases hq : q = key
    · rw [if_pos hq, if_pos hq]
      rfl
    · rw [if_neg hq, if_neg hq]
  rw [← Dict.get?_map]
  exact Json.diff_obj_of_same (.map_str d) ((hget key).trans (if_pos rfl))
    fun q hq ↦ (hget q).trans (if_neg hq)

/-- The other members are written as before. -/
theorem diff_setAnnotation (hnormal : m.members.IsNormal)
    (hfield : m.others.get? "annotations" = none) (key value : String) :
    Json.diff m.toJson (m.setAnnotation key value).toJson =
      memberChanges (m.annotations.map jsonOfTexts) "annotations"
        (jsonOfTexts ((m.annotations.getD .empty).insert key value)) := by
  rw [← get?_members_annotations hfield]
  refine Json.diff_obj_of_same hnormal (get?_members_annotations hfield) fun q hq ↦ ?_
  show (m.setAnnotation key value).members.get? q = m.members.get? q
  rw [get?_members, get?_members, if_neg hq, if_neg hq]
  rfl

end Metadata

namespace Pod

/-- The change that sets an annotation in the written form of a pod, if there is one to make. -/
def annotationChanges (annotations : Option (Dict String)) (key value : String) : Patch :=
  match annotations with
  | none => [.add ["metadata", "annotations"] (Metadata.jsonOfTexts (Dict.empty.insert key value))]
  | some d =>
    match d.get? key with
    | none => [.add ["metadata", "annotations", key] (.str value)]
    | some old =>
      if old = value then [] else [.replace ["metadata", "annotations", key] (.str value)]

theorem length_annotationChanges_le (annotations : Option (Dict String)) (key value : String) :
    (annotationChanges annotations key value).length ≤ 1 := by
  unfold annotationChanges
  split
  · exact Nat.le_refl 1
  · split
    · exact Nat.le_refl 1
    · split
      · exact Nat.zero_le 1
      · exact Nat.le_refl 1

/-- The patch that brings the pod's own annotation up to date, if it is not. -/
def markingPatch (p : Pod) : Option Patch :=
  let changes := annotationChanges p.metadata.annotations Marks.redirectedKey
    (if Marks.isManaged p.metadata then "true" else "false")
  if changes.isEmpty then none else some changes

theorem getD_markingPatch (p : Pod) :
    p.markingPatch.getD [] = annotationChanges p.metadata.annotations Marks.redirectedKey
      (if Marks.isManaged p.metadata then "true" else "false") := by
  unfold markingPatch
  rcases annotationChanges _ _ _ with - | ⟨op, ops⟩ <;> rfl

theorem length_markingPatch_le (p : Pod) : (p.markingPatch.getD []).length ≤ 1 := by
  rw [getD_markingPatch]
  exact length_annotationChanges_le _ _ _

/-- **Setting an annotation of a pod** makes one change at most. -/
theorem diff_setAnnotation {p : Pod} (hnormal : p.members.IsNormal)
    (hfield : p.metadata.others.get? "annotations" = none) (key value : String) :
    Json.diff p.toJson ({ p with metadata := p.metadata.setAnnotation key value } : Pod).toJson =
      annotationChanges p.metadata.annotations key value := by
  have hmetadata := Json.isNormal_obj_iff.1 (hnormal _ _ p.get?_members_metadata)
  have hpod : Json.diff p.toJson
        ({ p with metadata := p.metadata.setAnnotation key value } : Pod).toJson =
      memberChanges (some p.metadata.toJson) "metadata"
        (p.metadata.setAnnotation key value).toJson := by
    rw [← p.get?_members_metadata]
    refine Json.diff_obj_of_same hnormal (get?_members_metadata _) fun q hq ↦ ?_
    show ({ p with metadata := p.metadata.setAnnotation key value } : Pod).members.get? q =
      p.members.get? q
    rw [get?_members, get?_members, if_neg hq, if_neg hq]
  rw [hpod, memberChanges, Metadata.diff_setAnnotation hmetadata hfield]
  rcases p.metadata.annotations with - | d
  · rfl
  · show (memberChanges (some (Metadata.jsonOfTexts d)) "annotations"
      (Metadata.jsonOfTexts (d.insert key value))).map _ = _
    rw [memberChanges, Metadata.diff_jsonOfTexts_insert, annotationChanges]
    rcases d.get? key with - | old
    · rfl
    · have hdiff : Json.diff (.str old) (.str value) =
          if old = value then [] else [.replace [] (.str value)] := by
        simp [Json.diff]
      rw [Option.map_some, memberChanges, hdiff]
      by_cases hsame : old = value <;> simp [hsame, PatchOp.under]

end Pod

/-! ### Opting out -/

/-- Without leave to look at the containers, a pod is only marked. -/
theorem RedirectConfig.redirectPod_false (config : RedirectConfig) (p : Pod) :
    (config.redirectPod false p).1 = { p with metadata := Marks.finalize p.metadata } := by
  rcases p with ⟨m, - | s, others⟩ <;> rfl

namespace Webhook

variable {w w₁ w₂ : Webhook} {request request₁ request₂ : AdmissionRequest} {p p₁ p₂ : Pod}

theorem redirected_of_optedOut (hout : p.metadata.label? Marks.policyKey = some "ignore") :
    w.redirected p = { p with metadata := Marks.finalize p.metadata } := by
  have hperform : (!Marks.isOptedOut p.metadata) = false := by
    rw [Marks.isOptedOut, hout]
    rfl
  rw [redirected, hperform, RedirectConfig.redirectPod_false]

/-- The patch of one answer is told from labels and annotations. -/
theorem handle_patch_eq_of_optedOut (hdecoder : w.hasDecoder = true)
    (hpod : request.pod = .ok p) (hout : p.metadata.label? Marks.policyKey = some "ignore") :
    (w.handle request).1.patch = p.markingPatch := by
  obtain ⟨object, -, -, rfl⟩ := AdmissionRequest.exists_object_of_pod hpod
  have hwritten := Pod.isNormal_members_ofJson object.isNormal_toJson
  have hfield : (Pod.ofJson object.toJson).metadata.others.get? "annotations" = none :=
    Pod.get?_others_metadata_ofJson object.toJson (by decide)
  rw [handle_patch_eq hdecoder hpod, redirected_of_optedOut hout, Marks.finalize,
    Pod.diff_setAnnotation hwritten hfield]
  rfl

/-- **A pod whose owner has opted out keeps to itself.** Two webhooks with a decoder are asked about
two pods with the same labels and annotations, whose owners have opted out. Whatever else the pods
are and the webhooks are set to, the answers have the same patch, or none. A patch is one change,
which sets the pod's own annotation to whether the pod is managed. -/
theorem handle_patch_of_optedOut (hdecoder₁ : w₁.hasDecoder = true)
    (hdecoder₂ : w₂.hasDecoder = true)
    (hpod₁ : request₁.pod = .ok p₁) (hpod₂ : request₂.pod = .ok p₂)
    (hlabels : p₁.metadata.labels = p₂.metadata.labels)
    (hannotations : p₁.metadata.annotations = p₂.metadata.annotations)
    (hout : p₁.metadata.label? Marks.policyKey = some "ignore") :
    (w₁.handle request₁).1.patch = (w₂.handle request₂).1.patch ∧
      ((w₁.handle request₁).1.patch.getD []).length ≤ 1 ∧
      (w₁.handle request₁).1.patch.getD [] = Pod.annotationChanges p₁.metadata.annotations
        Marks.redirectedKey (if Marks.isManaged p₁.metadata then "true" else "false") := by
  have hlabel : ∀ key, p₂.metadata.label? key = p₁.metadata.label? key := fun key ↦ by
    rw [Metadata.label?, Metadata.label?, hlabels]
  have hmarking : p₁.markingPatch = p₂.markingPatch := by
    rw [Pod.markingPatch, Pod.markingPatch, Marks.isManaged, Marks.isManaged, hlabel, hannotations]
  rw [handle_patch_eq_of_optedOut hdecoder₁ hpod₁ hout,
    handle_patch_eq_of_optedOut hdecoder₂ hpod₂ ((hlabel _).trans hout)]
  exact ⟨hmarking, p₁.length_markingPatch_le, p₁.getD_markingPatch⟩

/-- A request to create a managed pod whose owner has opted out since. -/
def toCreateOptedOut (spec : Json) : AdmissionRequest :=
  .toCreate <| .ofJson <| .obj
    [("apiVersion", .str "v1"), ("kind", .str "Pod"),
     ("metadata", .obj
       [("annotations", .obj [("team", .str "a")]),
        ("labels", .obj
          [("kuik.enix.io/image-caching-policy", .str "ignore"),
           ("kuik.enix.io/managed", .str "true")])]),
     ("spec", spec)]

/-- The pod with an image of the cache is answered like the pod with another image at another
port. -/
theorem handle_patch_of_managed :
    let w₁ : Webhook := ⟨{ proxyPort := 4242 }, true⟩
    let w₂ : Webhook := ⟨{ proxyPort := 7439 }, true⟩
    let request₁ := toCreateOptedOut (.obj
      [("containers", .arr [.obj [("image", .str "localhost:4242/app"), ("name", .str "a")]])])
    let request₂ := toCreateOptedOut (.obj
      [("containers", .arr [.obj [("image", .str "quay.io/app"), ("name", .str "b")]])])
    (w₁.handle request₁).1.patch = (w₂.handle request₂).1.patch ∧
      (w₁.handle request₁).1.patch.getD [] =
        [.add ["metadata", "annotations", "kuik.enix.io/rewrite-images"] (.str "true")] := by
  intro w₁ w₂ request₁ request₂
  have hdecoder₁ : w₁.hasDecoder = true := rfl
  have hdecoder₂ : w₂.hasDecoder = true := rfl
  have hpod₁ : request₁.pod = .ok _ := rfl
  have hpod₂ : request₂.pod = .ok _ := rfl
  obtain ⟨hsame, -, heq⟩ := handle_patch_of_optedOut hdecoder₁ hdecoder₂ hpod₁ hpod₂ rfl rfl
    (by decide +kernel)
  refine ⟨hsame, heq.trans ?_⟩
  decide +kernel

end Webhook

end PullCache
