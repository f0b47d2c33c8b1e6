import PullCache.Reference.Basic
import PullCache.Reference.Grammar

/-!
# Redirecting references to the cache

`Reference.redirect` names an image as the node's cache serves it: under the host `localhost`, with
the registry it comes from as the first segment of the path, the colon of its domain turned into a
hyphen. `Reference.source` goes the other way and finds the registry again: it takes the first
segment of a local path for a domain when there is a dot in it.
-/

namespace PullCache.Reference

open Text (cutFirst cutLast)
open Grammar (isDigits)

/-- A domain written as one path segment. -/
def segmentOfDomain (domain : String) : String :=
  String.ofList (domain.toList.map fun c ↦ if c = ':' then '-' else c)

/-- The domain that a path segment stands for: digits after its last hyphen come after a colon. -/
def domainOfSegment (segment : String) : String :=
  match cutLast '-' segment.toList with
  | some (host, digits) =>
    if isDigits digits then String.ofList (host ++ ':' :: digits) else segment
  | none => segment

/-- The domain of the cache that listens at the given number. -/
def cacheDomain (proxyPort : UInt16) : String :=
  localHost ++ ":" ++ toString proxyPort.toNat

/-- The path under which the cache serves a reference: the registry's segment and the path, or the
bare path when no other host is named. -/
def cachedPath (r : Reference) : String :=
  match r.domain with
  | some domain =>
    if hostOf domain = localHost then r.path else segmentOfDomain domain ++ "/" ++ r.path
  | none => r.path

/-- The reference as the cache serves it. The tag is kept and a digest is not. -/
def redirect (r : Reference) (proxyPort : UInt16) : Reference :=
  { domain := some (cacheDomain proxyPort)
    path := r.cachedPath
    tag := r.tag
    digest := none }

/-- The reference that a local one stands for; any other stands for itself. -/
def source (r : Reference) : Reference :=
  if r.isLocal then
    match cutFirst '/' r.path.toList with
    | some (first, rest) =>
      if first.contains '.' then
        { r with
          domain := some (domainOfSegment (String.ofList first))
          path := String.ofList rest }
      else { r with domain := none }
    | none => { r with domain := none }
  else r

end PullCache.Reference
