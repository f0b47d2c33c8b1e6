import PullCache.Admission.Wire
import PullCache.Json.Printer
import PullCache.Service.Http
import PullCache.Startup

/-!
# The program

The program takes its configuration from the file that `CONFIG_PATH` names. When it has started, it
answers the reviews on standard input, one to a line, each with a line of its own: the review that
is the answer, or the status of a refusal. What it tells about its work goes to standard error.

It does not listen at a port, and so has no use for a certificate: of the files for TLS it asks only
that they can be read.
-/

namespace PullCache.Program

/-- Where the configuration is if the environment does not say. -/
def defaultPath : String := "/etc/kuik/config.yaml"

/-- The bytes of a file, if it can be read. -/
def bytes? (path : String) : IO (Option ByteArray) :=
  try some <$> IO.FS.readBinFile path catch _ => return none

/-- What the system has put into the environment of this program, byte by byte. -/
def environment : IO Environment :=
  return .ofBlock ((← bytes? "/proc/self/environ").getD .empty)

/-- Whether both files for TLS can be read. -/
def loadTls (files : TlsFiles) : IO Bool :=
  return (← bytes? files.certPath).isSome && (← bytes? files.keyPath).isSome

/-- Writes events to standard error; those that are for debugging are left out. -/
def tell (events : List Event) : IO Unit :=
  (events.filter fun event ↦ event.level ≠ .debug).forM fun event ↦ IO.eprintln event.line

/-- The line that answers a body. -/
def answerLine (response : HttpResponse) : String :=
  match response.body with
  | some body => body.toJson.render
  | none => toString response.status

/-- Answers the bodies on the standard input. -/
partial def serve (webhook : Webhook) (stdin stdout : IO.FS.Stream) : IO Unit := do
  let line ← stdin.getLine
  if line.isEmpty then return
  let request : HttpRequest :=
    { target := "/mutate-core-v1-pod", contentType := some "application/json", body := line }
  let (response, events) := webhook.respond request
  tell events
  stdout.putStrLn (answerLine response)
  stdout.flush
  serve webhook stdin stdout

/-- Starts the service and answers what it is asked. -/
def run : IO UInt32 := do
  let env ← environment
  let path := (env.value "CONFIG_PATH").toOption.getD defaultPath
  let file : ConfigFile := { path, bytes := ← bytes? path }
  tell (Service.startEvents env file)
  match ← Service.start loadTls env file with
  | .error error =>
    IO.eprintln ("Error: " ++ error.message)
    return 1
  | .ok service =>
    serve service.webhook (← IO.getStdin) (← IO.getStdout)
    return 0

end PullCache.Program

/-- Runs the program; its arguments are not looked at. -/
def main : IO UInt32 :=
  PullCache.Program.run
