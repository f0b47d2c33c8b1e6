import PullCache.Text.Cut

/-!
# Image references

A container image is named by an optional registry domain, a repository path, an optional tag and
an optional digest, written `domain/path:tag@digest`. `Reference.text` writes one; reading is in
`PullCache.Reference.Parse`. A reference need not be well formed: the structure only keeps the
parts apart.
-/

namespace PullCache

open Text (cutFirst)

/-- The name of a container image in its parts. Without a domain it is pulled from the implied
default registry. -/
structure Reference where
  /-- Host of the registry, with `:` and digits when it does not answer at the usual place. -/
  domain : Option String
  /-- Repository inside the registry. -/
  path : String
  /-- Label of one build of the repository. -/
  tag : Option String
  /-- Hash that pins the content. -/
  digest : Option String
deriving DecidableEq, Repr

namespace Reference

/-- The written form `domain/path:tag@digest`, where absent parts leave out their separator. -/
def text (r : Reference) : String :=
  (match r.domain with
    | some domain => domain ++ "/"
    | none => "") ++
  r.path ++
  (match r.tag with
    | some tag => ":" ++ tag
    | none => "") ++
  (match r.digest with
    | some digest => "@" ++ digest
    | none => "")

/-- What stands before the first colon of a domain. -/
def hostOf (domain : String) : String :=
  match cutFirst ':' domain.toList with
  | some (host, _) => String.ofList host
  | none => domain

/-- The host part of the domain. -/
def host (r : Reference) : Option String :=
  r.domain.map hostOf

/-- A pinned reference names its content by digest. -/
def isPinned (r : Reference) : Bool :=
  r.digest.isSome

/-- The host under which the cache answers on every node. -/
def localHost : String := "localhost"

/-- Whether the registry is the node itself. -/
def isLocal (r : Reference) : Bool :=
  r.host == some localHost

end Reference

end PullCache
