import ProxyHandshake.Configuration
import ProxyHandshake.Failure

/-!
# Reports of errors

An error that ends the command is reported with what was being done, from the outermost activity
in, and its exit code tells scripts what kind of error it was.
-/

namespace ProxyHandshake

/-- What ends the command. -/
inductive CommandError where
  | configuration (cause : ConfigurationError)
  | failure (cause : Failure)
  /-- A failure of the transport outside of an exchange. -/
  | transport (cause : TransportError)
  /-- An error that is known by its text only. -/
  | other (detail : String)
deriving DecidableEq, Repr

namespace CommandError

def message : CommandError → String
  | .configuration cause => cause.message
  | .failure cause => cause.message
  | .transport cause => cause.message
  | .other detail => detail

/-- The text of the error below, where there is one. -/
def source? : CommandError → Option String
  | .configuration (.io cause) => some cause.message
  | .failure (.transport cause) => cause.source?
  | .transport cause => cause.source?
  | _ => none

/-- The kind of a failure of an exchange. -/
def kind? : CommandError → Option FailureKind
  | .failure cause => some cause.kind
  | _ => none

def exitCode : CommandError → Nat
  | .configuration _ => 2
  | .failure cause =>
    match cause.kind with
    | .transport => 1
    | .invalidRequest => 2
    | .credential => 3
    | .negotiation => 4
    | .authenticationFailed => 5
    | .protocolViolation => 6
  | .transport _ => 1
  | .other _ => 1

end CommandError

structure Report where
  error : CommandError
  /-- What was being done, innermost first. -/
  context : List String
deriving DecidableEq, Repr

namespace Report

/-- The report of an error that needs no explanation. -/
def of (error : CommandError) : Report := ⟨error, []⟩

/-- The report with one more activity around it. -/
def within (report : Report) (activity : String) : Report :=
  { report with context := report.context ++ [activity] }

/-- All texts, from the outermost in. -/
def texts (report : Report) : List String :=
  report.context.reverse ++ report.error.message :: report.error.source?.toList

def text (report : Report) : String :=
  ": ".intercalate report.texts

/-- The outermost text. -/
def summary (report : Report) : String :=
  report.context.getLast?.getD report.error.message

def exitCode (report : Report) : Nat := report.error.exitCode

end Report

end ProxyHandshake
