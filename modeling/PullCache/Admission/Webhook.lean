import PullCache.Event
import PullCache.Patch.Diff
import PullCache.Redirect.Pod

/-!
# Answering requests

A webhook redirects the images of the pods it is asked about, and answers with the changes that
this makes to the pod. It needs a decoder first, which it is given once. A pod whose owner has opted
out is only marked. Every pod is admitted: a request is denied when it has no pod.
-/

namespace PullCache

/-- How a request turned out; the parts that are not said are absent. -/
structure Outcome where
  summary : Option String := none
  message : Option String := none
  reason : Option String := none
deriving DecidableEq, Repr, Inhabited

/-- The answer to a request. -/
structure AdmissionResponse where
  /-- The type of the review that is answered. -/
  type : ObjectType
  uid : String
  allowed : Bool
  outcome : Outcome := {}
  /-- The changes to the object; absent when there are none. -/
  patch : Option Patch := none
deriving DecidableEq, Inhabited

namespace AdmissionResponse

/-- Admits the object as it is. -/
def allow (request : AdmissionRequest) : AdmissionResponse :=
  { type := request.type, uid := request.uid, allowed := true }

/-- Does not admit the object. -/
def deny (request : AdmissionRequest) (message : String) : AdmissionResponse :=
  { type := request.type, uid := request.uid, allowed := false
    outcome := { message := some message } }

/-- The answer to a review that has no request to answer. -/
def toEmptyReview : AdmissionResponse :=
  { type := { apiVersion := "admission.k8s.io/v1beta1", kind := "AdmissionReview" }
    uid := ""
    allowed := false
    outcome :=
      { summary := some "Failure"
        message := some Review.noRequest
        reason := some "InvalidRequest" } }

end AdmissionResponse

/-- The state of the service: its configuration, and whether it has a decoder. -/
structure Webhook where
  config : RedirectConfig
  hasDecoder : Bool := false
deriving Inhabited

namespace Webhook

/-- Gives the webhook its decoder, which it takes once. -/
def inject (w : Webhook) : Except DecoderError Webhook :=
  if w.hasDecoder then .error .alreadyInjected else .ok { w with hasDecoder := true }

/-- Answers a request, and tells what happened. -/
def handle (w : Webhook) (request : AdmissionRequest) : AdmissionResponse × List Event :=
  if !w.hasDecoder then
    (.deny request DecoderError.notInjected.message, [.unhandled request.uid .notInjected])
  else
    match request.pod with
    | .error error => (.deny request error.message, [.undecoded request.uid error])
    | .ok before =>
      let perform := !Marks.isOptedOut before.metadata
      let (after, events) := w.config.redirectPod perform before
      let patch := Json.diff before.toJson after.toJson
      ({ AdmissionResponse.allow request with
          patch := if patch.isEmpty then none else some patch },
        events.map .container ++
          [.admitted request.operation after.metadata.anyName (request.space.getD "") perform
            (Marks.isManaged after.metadata)])

/-- Answers a review, and tells what happened. -/
def answer (w : Webhook) (review : Review) : AdmissionResponse × List Event :=
  match review.request with
  | some request => w.handle request
  | none => (.toEmptyReview, [.emptyReview])

end Webhook

end PullCache
