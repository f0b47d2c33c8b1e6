import PullCache.Admission.Webhook
import PullCache.Service.MediaType

/-!
# The HTTP service

Three routes: two probes, and the one to which reviews are posted. What is wrong with a request is
looked for in the order path, method, content type, body.
-/

namespace PullCache

open Json (Fault)

/-- A request, as far as the service looks at it. -/
structure HttpRequest where
  method : String := "POST"
  /-- The target, with a query perhaps. -/
  target : String
  contentType : Option String := none
  body : String := ""
deriving DecidableEq, Repr, Inhabited

/-- An answer. -/
structure HttpResponse where
  status : Nat
  body : Option AdmissionResponse := none
deriving DecidableEq, Inhabited

namespace HttpRequest

/-- What the service has an answer for. -/
inductive Route where
  | probe
  | mutate
deriving DecidableEq, Repr

/-- The target without its query. -/
def path (request : HttpRequest) : String :=
  String.ofList (request.target.toList.takeWhile fun c ↦ c != '?' && c != '#')

/-- The route of a path. -/
def route? (path : String) : Option Route :=
  if path = "/health/live" ∨ path = "/health/ready" then some .probe
  else if path = "/mutate-core-v1-pod" then some .mutate
  else none

/-- Whether the request says that its body is JSON. -/
def hasJsonBody (request : HttpRequest) : Bool :=
  request.contentType.any fun text ↦ (MediaType.ofText? text).any MediaType.isJson

/-- The most bytes of a body. -/
def maxBodySize : Nat := 2 * 1024 * 1024

end HttpRequest

namespace Webhook

/-- The status for a body that is no review. -/
def statusOfFault : Fault → Nat
  | .notJson => 400
  | .misshapen => 422

/-- Answers a request over HTTP, and tells what happened. -/
def respond (w : Webhook) (request : HttpRequest) : HttpResponse × List Event :=
  match HttpRequest.route? request.path with
  | none => ({ status := 404 }, [])
  | some .probe =>
    ({ status := if request.method = "GET" ∨ request.method = "HEAD" then 204 else 405 }, [])
  | some .mutate =>
    if request.method ≠ "POST" then ({ status := 405 }, [])
    else if !request.hasJsonBody then ({ status := 415 }, [])
    else if HttpRequest.maxBodySize < request.body.utf8ByteSize then ({ status := 413 }, [])
    else
      match Review.read request.body with
      | .error fault => ({ status := statusOfFault fault }, [])
      | .ok review =>
        let (response, events) := w.answer review
        ({ status := 200, body := some response }, events)

end Webhook

end PullCache
