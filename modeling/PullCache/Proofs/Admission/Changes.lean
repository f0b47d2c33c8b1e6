import PullCache.Admission.Webhook
import PullCache.Proofs.Admission.ObjectType
import PullCache.Proofs.Patch.Pointer
import PullCache.Proofs.Pod.TakesOn

/-!
# What the patch of an answer does

The patch of an answer is found between two pods as they are written, and is made to the object of
the request, which need not be written like either. `Webhook.handle_patch_redirects` says that it
can be made to it, read back from its written form, and that the object is then read as the
redirected pod.

This needs that a member of a value is what its name looks up to. An object keeps normal values and
no others, so it is written as one (`AnyObject.isNormal_toJson`).
-/

namespace PullCache

/-! ### Objects of requests -/

namespace AnyObject

theorem isNormal_toJson (o : AnyObject) : o.toJson.IsNormal := by
  have htext : ∀ (text : ObjectType → String) v,
      (o.type.map fun t ↦ Json.str (text t)) = some v → v.IsNormal := by
    intro text v hv
    obtain ⟨type, -, rfl⟩ := Option.map_eq_some_iff.1 hv
    exact .str _
  exact .obj (((o.normal.insert? (htext ObjectType.apiVersion)).insert?
    (htext ObjectType.kind)).insert (.obj (Metadata.isNormal_members o.normal_metadata)))

/-- An object is written with its metadata, whatever it was read off. -/
theorem isSome_field?_metadata (o : AnyObject) : (o.toJson.field? "metadata").isSome := by
  have hget : o.allMembers.get? "metadata" = some o.metadata.toJson := by
    rw [allMembers, Dict.get?_insert, if_pos rfl]
  rw [toJson_eq, Json.field?_obj_eq_some_iff.2 ⟨hget, by simp [Metadata.toJson]⟩]
  rfl

end AnyObject

/-- The pod of a request is what its object, which looks like a pod, is read as. -/
theorem AdmissionRequest.exists_object_of_pod {request : AdmissionRequest} {before : Pod}
    (hpod : request.pod = .ok before) :
    ∃ object, request.object = some object ∧ PodShape.pod.fits object.toJson = true ∧
      Pod.ofJson object.toJson = before := by
  obtain ⟨object, hobject, -, hread⟩ := pod_eq_ok_iff.1 hpod
  exact ⟨object, hobject, by simpa [Pod.ofJson?] using hread⟩

/-! ### The redirected pod -/

namespace RedirectConfig

theorem sameButImage_redirected (config : RedirectConfig) (c : Container) :
    c.SameButImage (config.redirected c) := by
  rcases hr : config.eligible? c with - | r
  · rw [redirected_of_not_eligible hr]
    exact ⟨rfl, rfl, rfl⟩
  · obtain ⟨image, himage, -⟩ := eligible?_eq_some_iff.1 hr
    rw [redirected_of_eligible hr]
    exact ⟨rfl, rfl, by rw [himage]; rfl⟩

/-- Whether or not its containers are looked at, a pod gets other images and more metadata at
most. -/
theorem exists_redirectPod_eq (config : RedirectConfig) (perform : Bool) (p : Pod) :
    ∃ f : Container → Container, (∀ c : Container, c.SameButImage (f c)) ∧
      p.metadata.Extends (config.redirectPod perform p).1.metadata ∧
      (config.redirectPod perform p).1.spec = (p.mapContainers f).spec ∧
      (config.redirectPod perform p).1.others = p.others := by
  cases perform with
  | true =>
    refine ⟨config.redirected, config.sameButImage_redirected, ?_⟩
    rw [redirectPod_true]
    exact ⟨(Marks.extends_recordAll _ _).trans (Marks.extends_finalize _), rfl, rfl⟩
  | false =>
    refine ⟨id, fun c ↦ ⟨rfl, rfl, rfl⟩, Marks.extends_finalize _, ?_, rfl⟩
    rcases p with ⟨m, - | ⟨- | init, containers, others⟩, rest⟩ <;>
      simp [redirectPod, Pod.mapContainers]

end RedirectConfig

/-! ### Answers -/

/-- A value after the changes of an answer, which are read off their written form; without a patch
there are none. -/
def AdmissionResponse.changed? (response : AdmissionResponse) (value : Json) : Option Json :=
  match response.patch with
  | none => some value
  | some patch => (Patch.ofJson? (.arr (patch.map PatchOp.toJson))).bind (·.applied? value)

/-- The changes are read back as they were found. -/
theorem AdmissionResponse.changed?_eq (response : AdmissionResponse) (value : Json) :
    response.changed? value = (response.patch.getD []).applied? value := by
  rcases hpatch : response.patch with - | patch
  · rw [changed?, hpatch]
    rfl
  · rw [changed?, hpatch]
    show (Patch.ofJson? (.arr (patch.map PatchOp.toJson))).bind _ = _
    rw [Patch.ofJson?_map_toJson]
    rfl

namespace Webhook

/-- A pod after its containers have been redirected, unless its owner has opted out. -/
def redirected (w : Webhook) (p : Pod) : Pod :=
  (w.config.redirectPod (!Marks.isOptedOut p.metadata) p).1

variable {w : Webhook} {request : AdmissionRequest} {before : Pod}

/-- An object that looks like a pod takes on what redirecting the pod changes. -/
theorem takesOn_redirected (w : Webhook) {object : AnyObject}
    (hfits : PodShape.pod.fits object.toJson = true) :
    Json.TakesOn PodShape.pod Pod.ofJson Pod.toJson object.toJson
      (w.redirected (Pod.ofJson object.toJson)) := by
  obtain ⟨f, hf, hmetadata, hspec, hothers⟩ := w.config.exists_redirectPod_eq
    (!Marks.isOptedOut (Pod.ofJson object.toJson).metadata) (Pod.ofJson object.toJson)
  exact Pod.takesOn hf object.isNormal_toJson hfits object.isSome_field?_metadata hmetadata hspec
    hothers

/-- **A request is granted exactly when there is a decoder and the request has a pod.** -/
theorem handle_allowed_iff : (w.handle request).1.allowed = true ↔
    w.hasDecoder = true ∧ ∃ pod, request.pod = .ok pod := by
  rcases hdecoder : w.hasDecoder with - | -
  · simp [handle, hdecoder, AdmissionResponse.deny]
  · rcases hpod : request.pod with error | before
    · simp [handle, hdecoder, hpod, AdmissionResponse.deny]
    · simp [handle, hdecoder, hpod, AdmissionResponse.allow]

/-- The patch of an answer is what lies between the two pods, if anything does. -/
theorem handle_patch_eq (hdecoder : w.hasDecoder = true) (hpod : request.pod = .ok before) :
    (w.handle request).1.patch =
      if (Json.diff before.toJson (w.redirected before).toJson).isEmpty then none
      else some (Json.diff before.toJson (w.redirected before).toJson) := by
  simp [handle, hdecoder, hpod, redirected]

/-- The changes of an answer are those between the two pods, if there are any. -/
theorem handle_patch (hdecoder : w.hasDecoder = true) (hpod : request.pod = .ok before) :
    (w.handle request).1.patch.getD [] = Json.diff before.toJson (w.redirected before).toJson ∧
      ((w.handle request).1.patch = none ↔
        Json.diff before.toJson (w.redirected before).toJson = []) := by
  rw [handle_patch_eq hdecoder hpod]
  rcases Json.diff before.toJson (w.redirected before).toJson with - | ⟨op, ops⟩ <;> simp

/-- The object of a granted request takes on the changes, and is read as the redirected pod then. -/
theorem exists_changed? {object : AnyObject}
    (hfits : PodShape.pod.fits object.toJson = true)
    (hpatch : (w.handle request).1.patch.getD [] = Json.diff (Pod.ofJson object.toJson).toJson
      (w.redirected (Pod.ofJson object.toJson)).toJson) :
    ∃ value, (w.handle request).1.changed? object.toJson = some value ∧
      Pod.ofJson? value = some (w.redirected (Pod.ofJson object.toJson)) := by
  obtain ⟨value, hcarries, hfits', hread⟩ := w.takesOn_redirected hfits
  refine ⟨value, ?_, ?_⟩
  · rw [AdmissionResponse.changed?_eq, hpatch]
    exact hcarries
  · rw [Pod.ofJson?, if_pos hfits', hread]

/-- **The patch is the redirection.** When a request is granted, the changes of the answer, read
back from their written form, can be made to the object of the request as it is written, and the
outcome is read as the pod of the request with its images redirected, or only marked when its owner
has opted out. There is no patch exactly when that pod does not change. -/
theorem handle_patch_redirects (w : Webhook)
    (hallowed : (w.handle request).1.allowed = true) :
    ∃ object before value, request.object = some object ∧ request.pod = .ok before ∧
      (w.handle request).1.changed? object.toJson = some value ∧
      Pod.ofJson? value = some (w.redirected before) ∧
      ((w.handle request).1.patch = none ↔ w.redirected before = before) := by
  obtain ⟨hdecoder, before, hpod⟩ := handle_allowed_iff.1 hallowed
  obtain ⟨object, hobject, hfits, rfl⟩ := AdmissionRequest.exists_object_of_pod hpod
  have hself : Json.diff (Pod.ofJson object.toJson).toJson (Pod.ofJson object.toJson).toJson = [] :=
    Json.diff_self (.obj (Pod.isNormal_members_ofJson object.isNormal_toJson))
  obtain ⟨hpatch, hnone⟩ := handle_patch hdecoder hpod
  obtain ⟨value, hchanged, hafter⟩ := exists_changed? hfits hpatch
  refine ⟨object, _, value, hobject, hpod, hchanged, hafter,
    hnone.trans ⟨(w.takesOn_redirected hfits).eq_of_diff_eq_nil, fun hsame ↦ ?_⟩⟩
  -- the other direction: a pod without a change is compared with itself
  rw [hsame, hself]

/-- A request to create a pod with an annotation and one container. -/
def toCreatePod (name image : String) : AdmissionRequest :=
  .toCreate <| .ofJson <| .obj
    [("apiVersion", .str "v1"), ("kind", .str "Pod"),
     ("metadata", .obj [("annotations", .obj [("team", .str "a")]), ("name", .str "p")]),
     ("spec", .obj [("containers", .arr [.obj [("image", .str image), ("name", .str name)]])])]

/-- The name of a container may have a slash and a tilde in it. -/
theorem handle_patch_of_name :
    (handle ⟨{ proxyPort := 4242 }, true⟩ (toCreatePod "a/b~c" "app")).1.allowed = true ∧
      ∃ object value pod, (toCreatePod "a/b~c" "app").object = some object ∧
        (handle ⟨{ proxyPort := 4242 }, true⟩ (toCreatePod "a/b~c" "app")).1.changed?
          object.toJson = some value ∧
        Pod.ofJson? value = some pod ∧
        (pod.containersOf .regular).map Container.image = [some "localhost:4242/app"] ∧
        pod.metadata.annotation? "kuik.enix.io/original-image-a/b~c" = some "app" := by
  have hallowed : (handle ⟨{ proxyPort := 4242 }, true⟩
      (toCreatePod "a/b~c" "app")).1.allowed = true := by rfl
  obtain ⟨object, before, value, hobject, hpod, hchanged, hread, -⟩ :=
    handle_patch_redirects ⟨{ proxyPort := 4242 }, true⟩ hallowed
  refine ⟨hallowed, object, value, _, hobject, hchanged, hread, ?_⟩
  have hread : (toCreatePod "a/b~c" "app").pod = .ok _ := rfl
  obtain rfl := Except.ok.inj (hread.symm.trans hpod)
  constructor <;> decide +kernel

end Webhook

end PullCache
