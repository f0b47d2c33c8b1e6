import PullCache.Config.Basic
import PullCache.Config.Template
import PullCache.Event

/-!
# Loading a configuration

A configuration file is read in stages: its bytes are a text, the placeholders in it are filled, and
what comes out is the YAML of a configuration. Then the configuration says what to redirect, if its
port and its patterns are of use. Each stage has an error of its own, and the first that fails gives
the error of the whole.
-/

namespace PullCache

/-- A configuration file, with its bytes if they can be read. -/
structure ConfigFile where
  path : String
  bytes : Option ByteArray

/-- The text of a file, if its bytes can be read and are UTF-8. -/
def ConfigFile.text? (file : ConfigFile) : Option String :=
  file.bytes.bind String.fromUTF8?

/-- Why a configuration is of no use. -/
inductive ConfigError where
  /-- The file is no text. -/
  | unreadable (path : String)
  /-- A placeholder names a variable that is not set. -/
  | unset (missing : UnsetVariable)
  /-- The filled text is not the YAML of a configuration. -/
  | misshapen
  | zeroProxyPort
  /-- One of the patterns is none. -/
  | badPattern
deriving DecidableEq, Repr

/-- The wording of each error. -/
def ConfigError.message : ConfigError → String
  | unreadable path => "Failed to read config file: " ++ path
  | unset missing => "Missing environment variable: " ++ missing.name
  | misshapen => "Failed to parse YAML config after environment variable expansion"
  | zeroProxyPort => "proxyPort must not be 0"
  | badPattern => "Failed to compile ignoreImages patterns"

namespace Config

/-- Loads a configuration from a file. -/
def load (env : Environment) (file : ConfigFile) : Except ConfigError Config :=
  match file.text? with
  | none => .error (.unreadable file.path)
  | some text =>
    match Template.fill env text with
    | .error missing => .error (.unset missing)
    | .ok filled =>
      match ofText? filled with
      | none => .error .misshapen
      | some config => .ok config

/-- What a configuration redirects. -/
def redirectConfig (config : Config) : Except ConfigError RedirectConfig :=
  if config.proxyPort = 0 then .error .zeroProxyPort
  else
    match IgnorePolicy.ofTexts? config.ignoreImages with
    | none => .error .badPattern
    | some policy => .ok { proxyPort := config.proxyPort, policy }

end Config

/-- What is told about a configuration that is put to use. -/
def RedirectConfig.announcement (config : RedirectConfig) : Event :=
  if config.policy.isEmpty then .redirectingAll config.proxyPort
  else .redirectingSome config.proxyPort config.policy.size

end PullCache
