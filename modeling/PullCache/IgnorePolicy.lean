import PullCache.Pattern.Basic

/-!
# Ignore policies

The images that are never redirected are those in which one of a list of patterns occurs. The order
of the patterns decides only which of them is named as the reason.
-/

namespace PullCache

/-- Patterns of images that are left alone. -/
structure IgnorePolicy where
  patterns : List Pattern := []
deriving Inhabited

namespace IgnorePolicy

/-- Reads all patterns, unless one of the texts is none. -/
def ofTexts? (texts : List String) : Option IgnorePolicy :=
  (texts.mapM Pattern.ofText?).map fun patterns ↦ { patterns }

/-- The text of the first pattern that occurs in an image. -/
def firstMatch? (policy : IgnorePolicy) (image : String) : Option String :=
  (policy.patterns.find? (·.occursIn image)).map Pattern.text

/-- How many patterns there are. -/
def size (policy : IgnorePolicy) : Nat :=
  policy.patterns.length

/-- Whether no image is ignored. -/
def isEmpty (policy : IgnorePolicy) : Bool :=
  policy.patterns.isEmpty

end IgnorePolicy

end PullCache
