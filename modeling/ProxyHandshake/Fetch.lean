import ProxyHandshake.CommandLine.Reader
import ProxyHandshake.Configuration.File
import ProxyHandshake.Exchange.Session
import ProxyHandshake.Report
import ProxyHandshake.Transport

/-!
# The command

The command fetches one URL through a proxy: it reads the configuration, points the authentication
library to the configured files, sends the request and prints the response.  An error is reported
on one line.
-/

namespace ProxyHandshake.Fetch

/-- What surrounds the command. -/
structure World where
  files : FileSystem
  environment : Environment

/-- What the command leaves behind. -/
structure Outcome where
  exitCode : Nat
  output : Bytes
  errors : String
deriving DecidableEq, Repr

/-! ## Configuration -/

/-- The configuration that a command line asks for. -/
def loadConfiguration (world : World) (arguments : CommandLine.Arguments) :
    Except Report Configuration :=
  let (path, explicit) := Configuration.resolvePath arguments.configPath world.environment
  match Configuration.loadOrDefault world.files world.environment path explicit with
  | .error cause =>
    .error ((Report.of (.configuration cause)).within
      ("failed to load config from " ++ Utf8.decodeLossy path))
  | .ok configuration =>
    let configuration := configuration.override arguments.overrides
    match configuration.validate with
    | .error cause => .error (.of (.configuration (.invalid cause)))
    | .ok () => .ok configuration

/-! ## Output -/

def headerLine (name : HeaderName) (value : HeaderValue) : String :=
  name.text ++ ": " ++ Utf8.decodeLossy value.bytes ++ "\n"

/-- What is printed of a response. -/
def rendered (response : Response) (showsHeaders : Bool) : Bytes :=
  let lines :=
    if showsHeaders then response.headers.grouped.map fun (name, value) => headerLine name value
    else []
  Utf8.encode ("HTTP/1.1 " ++ response.status.text ++ "\n" ++ String.join lines ++ "\n") ++
    response.body

/-- What is printed of an error. -/
def errorLine (report : Report) : String :=
  "error: " ++ report.text ++ "\n"

/-! ## The command -/

variable {σ κ χ : Type}

/-- The response to the request that a command line describes.  The library is prepared by `start`,
which is given the environment in which it finds its files. -/
def fetch (backend : Backend σ κ χ) (start : Environment → σ) (world : World)
    (arguments : CommandLine.Arguments) (configuration : Configuration) :
    Except Report Response :=
  match arguments.request with
  | .error cause => .error (.of (.failure (.invalidRequest cause)))
  | .ok request =>
    match configuration.settings with
    | .error cause => .error (.of (.configuration (.invalid cause)))
    | .ok settings =>
      let session : Session σ κ χ := .start (start (configuration.exported world.environment))
      match (session.authenticate backend settings world.files settings.proxy request).1 with
      | .error failure =>
        .error ((Report.of (.failure failure)).within ("fetching " ++ request.url.text))
      | .ok response => .ok response

/-- Follow a command line. -/
def run (backend : Backend σ κ χ) (start : Environment → σ) (world : World)
    (arguments : CommandLine.Arguments) : Outcome :=
  let result : Except Report Response :=
    match loadConfiguration world arguments with
    | .error report => .error report
    | .ok configuration => fetch backend start world arguments configuration
  match result with
  | .error report => ⟨report.exitCode, [], errorLine report⟩
  | .ok response => ⟨0, rendered response arguments.showsHeaders, ""⟩

/-- The exit code for a command line that cannot be followed. -/
def usageExitCode : CommandLine.UsageError → Nat
  | .helpWanted => 0
  | .versionWanted => 0
  | _ => 2

/-- A network without an authentication library. -/
def plainBackend (network : Network) : Backend Unit Unit Empty where
  library := .missing
  send proxy request authorization s := ((network.send proxy request authorization, ⟨0⟩), s)
  now _ := 0

/-- Follow a command line on a machine without an authentication library. -/
def runPlain (network : Network) (world : World) (arguments : CommandLine.Arguments) : Outcome :=
  run (plainBackend network) (fun _ => ()) world arguments

end ProxyHandshake.Fetch
