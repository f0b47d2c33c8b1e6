import PullCache.IgnorePolicy
import PullCache.Reference.Parse

/-!
# Which images are redirected

An image is eligible when it is a reference, is not pinned by a digest, and no pattern of the policy
occurs in it. The reasons against it are looked for in this order.
-/

namespace PullCache

/-- Where images are redirected to, and which are left alone. -/
structure RedirectConfig where
  proxyPort : UInt16
  policy : IgnorePolicy := {}
deriving Inhabited

/-- Why an image is left alone. -/
inductive Rejection where
  | unreadable (error : ReferenceError)
  | pinned
  | ignored (pattern : String)
deriving DecidableEq, Repr

namespace Rejection

/-- The wording of each reason. -/
def message : Rejection → String
  | unreadable error => "image cannot be parsed: " ++ error.message
  | pinned => "image contains a digest"
  | ignored pattern => "image matches " ++ pattern

end Rejection

/-- The reference that an eligible image is, or the first reason against it. -/
def RedirectConfig.check (config : RedirectConfig) (image : String) :
    Except Rejection Reference :=
  match Reference.parse image with
  | .error error => .error (.unreadable error)
  | .ok reference =>
    if reference.isPinned then .error .pinned
    else
      match config.policy.firstMatch? image with
      | some pattern => .error (.ignored pattern)
      | none => .ok reference

end PullCache
