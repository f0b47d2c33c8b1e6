import PullCache.Admission.Decode
import PullCache.Redirect.Eligibility

/-!
# Events

What the program tells about its work, one event at a time. The wording of all of them is here.
-/

namespace PullCache

/-- What has been done about a container. -/
inductive ContainerEvent where
  | imageless (container : String)
  | redirected (container image target source : String)
  | left (container image : String) (reason : Rejection)
deriving DecidableEq, Repr

/-- Why a request is not looked at, or a decoder not taken. -/
inductive DecoderError where
  | notInjected
  | alreadyInjected
deriving DecidableEq, Repr

/-- What the program tells about. -/
inductive Event where
  | container (event : ContainerEvent)
  /-- A request that cannot be looked at. -/
  | unhandled (uid : String) (error : DecoderError)
  /-- A request without a pod. -/
  | undecoded (uid : String) (error : DecodeError)
  | admitted (operation : Operation) (name space : String) (redirected managed : Bool)
  /-- A review without a request. -/
  | emptyReview
  | starting (version : String)
  | loadingConfig (path : String)
  | redirectingAll (proxyPort : UInt16)
  | redirectingSome (proxyPort : UInt16) (ignored : Nat)
deriving DecidableEq, Repr

/-- How much an event matters. -/
inductive Level where
  | debug
  | info
  | warn
deriving DecidableEq, Repr

namespace Level

/-- The name of a level. -/
def name : Level → String
  | debug => "DEBUG"
  | info => "INFO"
  | warn => "WARN"

end Level

namespace ContainerEvent

/-- The wording of each event. -/
def message : ContainerEvent → String
  | imageless container => "Container " ++ container ++ " has no image, skipping"
  | redirected container image target source =>
    "Rewriting image of container " ++ container ++ " from " ++ image ++ " to " ++ target ++
      " (upstream " ++ source ++ ")"
  | left container image reason =>
    "Not rewriting image " ++ image ++ " of container " ++ container ++ ": " ++ reason.message

end ContainerEvent

namespace DecoderError

/-- The wording of each error. -/
def message : DecoderError → String
  | notInjected => "admission decoder has not been injected"
  | alreadyInjected => "admission decoder has already been injected"

end DecoderError

namespace Event

/-- How much each event matters. -/
def level : Event → Level
  | container _ => .debug
  | unhandled _ _ | undecoded _ _ | emptyReview => .warn
  | admitted _ _ _ _ _ | starting _ | loadingConfig _ | redirectingAll _ | redirectingSome _ _ =>
    .info

/-- The wording of each event. -/
def message : Event → String
  | container event => event.message
  | unhandled uid error => "Cannot handle admission request " ++ uid ++ ": " ++ error.message
  | undecoded uid error =>
    "Failed to decode pod from admission request " ++ uid ++ ": " ++ error.message
  | admitted operation name space redirected managed =>
    "Admitted " ++ operation.label ++ " of pod " ++ name ++ " in namespace " ++ space ++
      " (rewrite: " ++ toString redirected ++ ", managed: " ++ toString managed ++ ")"
  | emptyReview => "Received invalid admission review: " ++ Review.noRequest
  | starting version => "Starting kuik-webhook " ++ version
  | loadingConfig path => "Loading config from file " ++ path
  | redirectingAll proxyPort =>
    "Rewriting all images through proxy port " ++ toString proxyPort.toNat
  | redirectingSome proxyPort ignored =>
    "Rewriting images through proxy port " ++ toString proxyPort.toNat ++ ", ignoring " ++
      toString ignored ++ " patterns"

/-- An event as a line of a log. -/
def line (event : Event) : String :=
  event.level.name ++ " " ++ event.message

end Event

end PullCache
