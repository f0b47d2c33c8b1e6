import PullCache.Proofs.Admission.Changes
import PullCache.Proofs.Pod.Places
import PullCache.Proofs.Redirect.History

/-!
# The footprint of an answer

What a webhook may do to a pod is little: `RedirectConfig.MayMake` lists the changes, by their
places and by what is put there. The patch of an answer has no others, whatever the pod looks like
(`Webhook.handle_patch_footprint`). It takes nothing away, it makes one change in a place, and when
it changes an image the pod is marked as managed.

The list is about the written form of the pod, which is what the patch was found on. That the patch
can be made to the object of the request, which may be written in another way, is in
`PullCache.Proofs.Admission.Changes`.
-/

namespace PullCache

open Patch (Within)

/-- A redirected reference is written with the cache in front. -/
theorem Reference.exists_text_redirect (r : Reference) (proxyPort : UInt16) :
    ∃ rest, (r.redirect proxyPort).text =
      "localhost:" ++ toString proxyPort.toNat ++ "/" ++ rest := by
  have hdomain : cacheDomain proxyPort = "localhost:" ++ toString proxyPort.toNat := by rfl
  simp [Reference.text, redirect, hdomain, String.append_assoc]

/-! ### Redirecting -/

namespace RedirectConfig

variable {config : RedirectConfig} {perform : Bool} {p : Pod} {op : PatchOp}

/-- **The changes that redirecting a pod makes** to its written form, if any: the images of eligible
containers are replaced by images of the cache, the pod is labelled as managed, and annotations of
its own and of eligible containers are set. -/
inductive MayMake (config : RedirectConfig) (perform : Bool) (p : Pod) : PatchOp → Prop
  | image {kind : ContainerKind} {i : ℕ} {c : Container} (rest : String)
    (hperform : perform = true) (hc : (p.containersOf kind)[i]? = some c)
    (heligible : (config.eligible? c).isSome) :
    MayMake config perform p (.replace (kind.imagePath i)
      (.str ("localhost:" ++ toString config.proxyPort.toNat ++ "/" ++ rest)))
  | labels {op : PatchOp}
    (h : op.SetsTexts ["metadata", "labels"] p.metadata.labels fun key value ↦
      perform = true ∧ key = Marks.managedKey ∧ value = "true") :
    MayMake config perform p op
  | annotations {op : PatchOp}
    (h : op.SetsTexts ["metadata", "annotations"] p.metadata.annotations fun key _ ↦
      key = Marks.redirectedKey ∨
        perform = true ∧ ∃ kind, ∃ c ∈ p.containersOf kind, (config.eligible? c).isSome ∧
          key = Marks.containerKey c.name kind) :
    MayMake config perform p op

/-- Nothing is taken away. -/
theorem MayMake.ne_remove (h : config.MayMake perform p op) (path : JsonPath) :
    op ≠ .remove path := by
  rintro rfl
  cases h with
  | labels h | annotations h => cases h

/-- A container whose image is changed leaves a record. -/
theorem MayMake.recordsIf_ne_nil (h : config.MayMake perform p op) {kind : ContainerKind} {i : ℕ}
    (hpath : op.path = kind.imagePath i) : config.recordsIf perform p ≠ [] := by
  cases h with
  | image rest hperform hc heligible =>
    obtain ⟨r, hr⟩ := Option.isSome_iff_exists.1 heligible
    exact List.ne_nil_of_mem
      (mem_recordsIf_iff.2 ⟨hperform, _, _, List.mem_of_getElem? hc, r, hr, rfl⟩)
  | labels h | annotations h =>
    -- such a change is made in the metadata
    obtain ⟨rest, hrest⟩ := h.exists_path
    rw [hpath, ContainerKind.imagePath] at hrest
    exact absurd (List.cons.inj hrest).1 (by decide)

/-- A container that gets another image was eligible, and gets one of the cache. -/
theorem mayMake_image {kind : ContainerKind} {i : ℕ} {c c' : Container} {image : String}
    (hc : (p.containersOf kind)[i]? = some c)
    (hc' : ((config.redirectPod perform p).1.containersOf kind)[i]? = some c')
    (himage : c'.image = some image) (hne : c.image ≠ some image) :
    config.MayMake perform p (.replace (kind.imagePath i) (.str image)) := by
  rw [containersOf_redirectPod_if] at hc'
  cases perform with
  | false =>
    -- without leave to redirect the container is the same
    obtain rfl := Option.some.inj (hc.symm.trans hc')
    exact absurd himage hne
  | true =>
    rw [if_pos rfl, List.getElem?_map, hc, Option.map_some, Option.some.injEq] at hc'
    rcases hr : config.eligible? c with - | r
    · rw [redirected_of_not_eligible hr] at hc'
      exact absurd (hc' ▸ himage) hne
    · rw [redirected_of_eligible hr] at hc'
      obtain rfl : (r.redirect config.proxyPort).text = image := by
        rw [← hc'] at himage
        exact Option.some.inj himage
      obtain ⟨rest, hrest⟩ := r.exists_text_redirect config.proxyPort
      rw [hrest]
      exact .image rest rfl hc (by rw [hr]; rfl)

/-- **Redirecting makes no other changes.** -/
theorem within_diff_redirectPod (config : RedirectConfig) (perform : Bool) {p : Pod}
    (hnormal : p.members.IsNormal)
    (hfields : p.metadata.others.get? "labels" = none ∧
      p.metadata.others.get? "annotations" = none) :
    Within (config.MayMake perform p)
      (Json.diff p.toJson (config.redirectPod perform p).1.toJson) := by
  obtain ⟨f, hf, hmetadata, hspec, hothers⟩ := config.exists_redirectPod_eq perform p
  have hcontainers : ∀ kind, (config.redirectPod perform p).1.containersOf kind =
      (p.containersOf kind).map f := by
    intro kind
    rw [← Pod.containersOf_mapContainers]
    cases kind <;> simp only [Pod.containersOf, hspec]
  refine Pod.within_diff hf hnormal hfields hmetadata hspec hothers
    (fun kind i c image hc himage hne ↦ ?_) (fun op hop ↦ .labels (hop.imp ?_))
    fun op hop ↦ .annotations (hop.imp ?_)
  · have hc' : ((config.redirectPod perform p).1.containersOf kind)[i]? = some (f c) := by
      rw [hcontainers, List.getElem?_map, hc]
      rfl
    exact mayMake_image hc hc' himage hne
  · rintro key value ⟨hafter, hbefore⟩
    rw [label?_redirectPod] at hafter
    split at hafter
    · next hset =>
      obtain ⟨e, he⟩ := List.exists_mem_of_ne_nil _ hset.1
      exact ⟨(mem_recordsIf_iff.1 he).1, hset.2, (Option.some.inj hafter).symm⟩
    · exact absurd hafter hbefore
  · rintro key value ⟨hafter, hbefore⟩
    by_cases hkey : key = Marks.redirectedKey
    · exact .inl hkey
    · have hne : (config.redirectPod perform p).1.metadata.annotation? key ≠
          p.metadata.annotation? key := by
        rw [hafter]
        exact hbefore.symm
      exact .inr (exists_eligible_of_annotation?_ne hkey hne)

end RedirectConfig

/-! ### Answers -/

/-- A pointer is written for one path only. -/
theorem PatchOp.pointer_injective : Function.Injective pointer := by
  intro path path' h
  have hread := congrArg pathOf? h
  rw [pathOf?_pointer, pathOf?_pointer] at hread
  exact Option.some.inj hread

namespace Webhook

variable {w : Webhook} {request : AdmissionRequest}

/-- A redirected pod says of itself that it is managed, when something is on record for it. -/
theorem marks_redirected {before : Pod}
    (h : w.config.recordsIf (!Marks.isOptedOut before.metadata) before ≠ []) :
    Marks.isManaged (w.redirected before).metadata = true ∧
      (w.redirected before).metadata.annotation? Marks.redirectedKey = some "true" := by
  have hmanaged : Marks.isManaged (w.redirected before).metadata = true :=
    (Pod.isManaged_redirectPod _ _ _).2 (.inl h)
  have hmarked : (w.redirected before).IsMarked := Pod.isMarked_redirectPod _ _ _
  rw [Pod.IsMarked, if_pos (Pod.isManaged_iff.1 hmanaged)] at hmarked
  exact ⟨hmanaged, hmarked⟩

/-- **The footprint of an answer.** When a request is granted, each change of the answer is one that
redirecting its pod makes. None takes anything away, and no two have one pointer. When an image is
among what is changed, the object is afterwards read as a pod that is managed and says so. -/
theorem handle_patch_footprint (w : Webhook)
    (hallowed : (w.handle request).1.allowed = true) :
    ∃ object before patch, request.object = some object ∧ request.pod = .ok before ∧
      (w.handle request).1.patch.getD [] = patch ∧
      (∀ op ∈ patch, w.config.MayMake (!Marks.isOptedOut before.metadata) before op ∧
        ∀ path, op ≠ .remove path) ∧
      (patch.map fun op ↦ PatchOp.pointer op.path).Nodup ∧
      ((∃ op ∈ patch, ∃ kind i, op.path = ContainerKind.imagePath kind i) →
        ∃ value pod, (w.handle request).1.changed? object.toJson = some value ∧
          Pod.ofJson? value = some pod ∧ Marks.isManaged pod.metadata = true ∧
          pod.metadata.annotation? Marks.redirectedKey = some "true") := by
  obtain ⟨hdecoder, before, hpod⟩ := handle_allowed_iff.1 hallowed
  obtain ⟨object, hobject, hfits, rfl⟩ := AdmissionRequest.exists_object_of_pod hpod
  obtain ⟨hpatch, -⟩ := handle_patch hdecoder hpod
  have hwithin : Within _ (Json.diff (Pod.ofJson object.toJson).toJson
      (w.redirected (Pod.ofJson object.toJson)).toJson) :=
    w.config.within_diff_redirectPod _ (Pod.isNormal_members_ofJson object.isNormal_toJson)
      ⟨Pod.get?_others_metadata_ofJson _ (by decide), Pod.get?_others_metadata_ofJson _ (by decide)⟩
  refine ⟨object, _, _, hobject, hpod, hpatch,
    fun op hop ↦ ⟨hwithin.allowed op hop, (hwithin.allowed op hop).ne_remove⟩, ?_, ?_⟩
  · -- the changes differ in their paths, and a pointer is written for one path only
    have hpointers := hwithin.nodup.map PatchOp.pointer_injective
    rwa [List.map_map] at hpointers
  · rintro ⟨op, hop, kind, i, hpath⟩
    have hmarks := marks_redirected ((hwithin.allowed op hop).recordsIf_ne_nil hpath)
    obtain ⟨value, hchanged, hafter⟩ := exists_changed? hfits hpatch
    exact ⟨value, _, hchanged, hafter, hmarks⟩

/-- A pod with an annotation and without labels: annotations are added one by one, and the labels as
a whole. -/
theorem handle_patch_footprint_of_name :
    let request := toCreatePod "a/b~c" "app"
    let response := (handle ⟨{ proxyPort := 4242 }, true⟩ request).1
    response.allowed = true ∧
      (response.patch.getD []).map (fun op ↦ PatchOp.pointer op.path) =
        ["/metadata/annotations/kuik.enix.io~1original-image-a~1b~0c",
         "/metadata/annotations/kuik.enix.io~1rewrite-images", "/metadata/labels",
         "/spec/containers/0/image"] ∧
      ∃ object value pod, request.object = some object ∧
        response.changed? object.toJson = some value ∧ Pod.ofJson? value = some pod ∧
        Marks.isManaged pod.metadata = true ∧
        pod.metadata.annotation? Marks.redirectedKey = some "true" := by
  intro request response
  have hallowed : response.allowed = true := by rfl
  obtain ⟨op, hop, hpath⟩ : ∃ op ∈ response.patch.getD [],
      op.path = ContainerKind.imagePath .regular 0 := by decide +kernel
  obtain ⟨object, before, patch, hobject, -, rfl, -, -, hmarked⟩ :=
    handle_patch_footprint ⟨{ proxyPort := 4242 }, true⟩ hallowed
  obtain ⟨value, pod, hafter⟩ := hmarked ⟨op, hop, .regular, 0, hpath⟩
  exact ⟨hallowed, by decide +kernel, object, value, pod, hobject, hafter⟩

end Webhook

end PullCache
