import PullCache.Yaml.Document

/-!
# Configurations

What a configuration says, and how it is read from a YAML document. Members that are not known are
left aside; a known one may stand only once.
-/

namespace PullCache

/-- The files with the certificate of the service and its key. -/
structure TlsFiles where
  certPath : String
  keyPath : String
deriving DecidableEq, Repr, Inhabited

/-- Where the service listens. -/
structure WebServer where
  port : UInt16
  tls : Option TlsFiles := none
deriving DecidableEq, Repr, Inhabited

/-- What the service is told to do. -/
structure Config where
  webServer : WebServer
  /-- Where the caching proxy listens on each node. -/
  proxyPort : UInt16
  /-- Patterns of images that are left alone. -/
  ignoreImages : List String := []
deriving DecidableEq, Repr, Inhabited

open Yaml (Document Node)

/-- Reads the number of a port. -/
def Config.port? (document : Document) (node : Node) : Option UInt16 := do
  let n ← (← document.scalar? node).natural?
  if n < UInt16.size then some (.ofNat n) else none

/-- Reads the files for TLS. -/
def TlsFiles.ofNode? (document : Document) (node : Node) : Option TlsFiles := do
  let fields ← document.fields? ["certPath", "keyPath"] node
  let certPath ← document.text? (← fields.lookup "certPath")
  let keyPath ← document.text? (← fields.lookup "keyPath")
  return { certPath, keyPath }

/-- Reads what may be null. -/
def Config.nullable? {α : Type} (document : Document) (read? : Node → Option α) (node : Node) :
    Option (Option α) :=
  match (document.scalar? node).map Yaml.Scalar.isNull? with
  | some none => none
  | some (some true) => some none
  | _ => (read? node).map some

/-- Reads the part on the web server. -/
def WebServer.ofNode? (document : Document) (node : Node) : Option WebServer := do
  let fields ← document.fields? ["port", "tls"] node
  let port ← Config.port? document (← fields.lookup "port")
  let tls ← match fields.lookup "tls" with
    | none => some none
    | some node => Config.nullable? document (TlsFiles.ofNode? document) node
  return { port, tls }

namespace Config

/-- Reads a configuration. -/
def ofDocument? (document : Document) : Option Config := do
  let fields ← document.fields? ["webserver", "proxyPort", "ignoreImages"] document.root
  let webServer ← WebServer.ofNode? document (← fields.lookup "webserver")
  let proxyPort ← port? document (← fields.lookup "proxyPort")
  let ignoreImages ← match fields.lookup "ignoreImages" with
    | none => some []
    | some node => (document.items? node).bind (List.mapM document.text?)
  return { webServer, proxyPort, ignoreImages }

/-- Reads the text of a configuration. -/
def ofText? (text : String) : Option Config :=
  (Document.ofText? text).bind ofDocument?

end Config

end PullCache
