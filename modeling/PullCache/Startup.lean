import PullCache.Admission.Webhook
import PullCache.Config.Load

/-!
# Starting the service

The service starts when its configuration loads, says what to redirect, and the files for TLS load,
if there are any. They are not tried before the rest has succeeded.
-/

namespace PullCache

/-- The version of the program. -/
def version : String := "0.1.0"

/-- A service that is ready to listen. -/
structure Service where
  webhook : Webhook
  server : WebServer

/-- Why a service does not start. -/
inductive StartupError where
  | config (error : ConfigError)
  /-- The certificate or its key does not load. -/
  | tls (files : TlsFiles)
deriving DecidableEq, Repr

/-- The wording of each error. -/
def StartupError.message : StartupError → String
  | config error => error.message
  | tls files =>
    "Failed to load TLS certificate " ++ files.certPath ++ " and key " ++ files.keyPath

namespace Service

/-- The service of a configuration, with its decoder; its files for TLS are not loaded yet. -/
def ofConfig (config : Config) : Except ConfigError Service :=
  config.redirectConfig.map fun redirect ↦
    { webhook := { config := redirect, hasDecoder := true }, server := config.webServer }

/-- The service of a configuration file. -/
def ofFile (env : Environment) (file : ConfigFile) : Except ConfigError Service :=
  (Config.load env file).bind ofConfig

variable {m : Type → Type} [Monad m]

/-- Starts the service of a configuration file. The first argument loads the files for TLS, and
tells whether that succeeded. -/
def start (loadTls : TlsFiles → m Bool) (env : Environment) (file : ConfigFile) :
    m (Except StartupError Service) :=
  match ofFile env file with
  | .error error => pure (.error (.config error))
  | .ok service =>
    match service.server.tls with
    | none => pure (.ok service)
    | some files => do
      if ← loadTls files then return .ok service else return .error (.tls files)

/-- What is told about a start, up to the place where it fails. -/
def startEvents (env : Environment) (file : ConfigFile) : List Event :=
  [.starting version, .loadingConfig file.path] ++
    match ofFile env file with
    | .ok service => [service.webhook.config.announcement]
    | .error _ => []

end Service

end PullCache
