import ProxyHandshake.CommandLine

/-!
# Reading the command line

Arguments are read from left to right.  A value of an option stands behind it, in the next argument
or, with or without an equals sign, in the same one.  A next argument that begins with a dash is no
value but an option of its own.  Behind two dashes nothing is an option.

A value is checked as the next option or the target is read, so that an argument that means nothing
is reported first if it follows at once.
-/

namespace ProxyHandshake.CommandLine

/-! ## Arguments so far -/

structure Draft where
  target : Option String
  configPath : Option Bytes
  overrides : Overrides
  method : Option Method
  headers : List (HeaderName × HeaderValue)
  data : Option String
  showsHeaders : Bool

namespace Draft

def empty : Draft where
  target := none
  configPath := none
  overrides :=
    { url := none
      username := none
      domain := none
      password := none
      keytab := none
      ticketCache := none
      isStrict := false
      timeoutSeconds := none
      service := none }
  method := none
  headers := []
  data := none
  showsHeaders := false

/-- The value of an option that has none yet. -/
def once {α : Type} (parameter : Parameter) (old : Option α) (value : Except UsageError α) :
    Except UsageError (Option α) :=
  if old.isSome then .error (.repeated parameter.text) else value.map some

/-- The name of a file, which must not be empty. -/
def pathValue (parameter : Parameter) (value : String) : Except UsageError Bytes :=
  if value = "" then .error (.noValue parameter) else .ok (Utf8.encode value)

/-- A value that `read` has to accept. -/
def checkedValue {α : Type} (parameter : Parameter) (value : String)
    (read : String → Except ValueError α) : Except UsageError α :=
  match read value with
  | .ok a => .ok a
  | .error cause => .error (.invalidValue parameter value cause)

/-- Give an option its value. -/
def set (draft : Draft) (parameter : Parameter) (value : String) : Except UsageError Draft :=
  let overrides := draft.overrides
  match parameter with
  | .config =>
    (once parameter draft.configPath (pathValue parameter value)).map fun v =>
      { draft with configPath := v }
  | .proxyUrl =>
    (once parameter overrides.url (.ok value)).map fun v =>
      { draft with overrides := { overrides with url := v } }
  | .proxyUsername =>
    (once parameter overrides.username (.ok value)).map fun v =>
      { draft with overrides := { overrides with username := v } }
  | .proxyPassword =>
    (once parameter overrides.password (.ok value)).map fun v =>
      { draft with overrides := { overrides with password := v } }
  | .proxyDomain =>
    (once parameter overrides.domain (.ok value)).map fun v =>
      { draft with overrides := { overrides with domain := v } }
  | .proxyKeytab =>
    (once parameter overrides.keytab (pathValue parameter value)).map fun v =>
      { draft with overrides := { overrides with keytab := v } }
  | .proxyCache =>
    (once parameter overrides.ticketCache (pathValue parameter value)).map fun v =>
      { draft with overrides := { overrides with ticketCache := v } }
  | .proxyService =>
    (once parameter overrides.service (.ok value)).map fun v =>
      { draft with overrides := { overrides with service := v } }
  | .timeout =>
    (once parameter overrides.timeoutSeconds
      (checkedValue parameter value readSeconds)).map fun v =>
        { draft with overrides := { overrides with timeoutSeconds := v } }
  | .method =>
    (once parameter draft.method (checkedValue parameter value readMethod)).map fun v =>
      { draft with method := v }
  | .header =>
    (checkedValue parameter value readHeader).map fun header =>
      { draft with headers := draft.headers ++ [header] }
  | .data =>
    (once parameter draft.data (.ok value)).map fun v => { draft with data := v }

def raise (draft : Draft) (flag : Flag) : Except UsageError Draft :=
  match flag with
  | .strict =>
    if draft.overrides.isStrict then .error (.repeated flag.text)
    else .ok { draft with overrides := { draft.overrides with isStrict := true } }
  | .showHeaders =>
    if draft.showsHeaders then .error (.repeated flag.text)
    else .ok { draft with showsHeaders := true }
  | .help => .error .helpWanted
  | .version => .error .versionWanted

def finish (draft : Draft) : Except UsageError Arguments :=
  match draft.target with
  | none => .error .noTarget
  | some target =>
    .ok
      { target := target
        configPath := draft.configPath
        overrides := draft.overrides
        method := draft.method
        headers := draft.headers
        data := draft.data
        showsHeaders := draft.showsHeaders }

end Draft

/-! ## Reading -/

/-- The last option, as long as its value has not been checked. -/
inductive Pending where
  | nothing
  | expecting (parameter : Parameter)
  | given (parameter : Parameter) (value : String)

structure Reading where
  draft : Draft
  pending : Pending

namespace Reading

def start : Reading := ⟨.empty, .nothing⟩

/-- Check the value of the last option. -/
def settle (reading : Reading) : Except UsageError Draft :=
  match reading.pending with
  | .nothing => .ok reading.draft
  | .expecting parameter => .error (.noValue parameter)
  | .given parameter value => reading.draft.set parameter value

/-- Go on with an option whose value is to come. -/
def expect (reading : Reading) (parameter : Parameter) : Except UsageError Reading :=
  reading.settle.map fun draft => ⟨draft, .expecting parameter⟩

/-- Go on with an option and its value. -/
def give (reading : Reading) (parameter : Parameter) (value : String) :
    Except UsageError Reading := do
  let draft ← reading.settle
  let draft ← draft.set parameter value
  return ⟨draft, .nothing⟩

def raise (reading : Reading) (flag : Flag) : Except UsageError Reading := do
  let draft ← reading.settle
  let draft ← draft.raise flag
  return ⟨draft, .nothing⟩

/-- Take an argument that is no option. -/
def readPlain (reading : Reading) (argument : String) : Except UsageError Reading :=
  match reading.draft.target with
  | some _ => .error (.unknownArgument argument)
  | none => reading.settle.map fun draft => ⟨{ draft with target := some argument }, .nothing⟩

/-- Read an option behind its two dashes. -/
def readLong (reading : Reading) (chars : List Char) : Except UsageError Reading :=
  let (name, value) :=
    match Text.cutFirst? (· == '=') chars with
    | some (name, value) => (String.ofList name, some (String.ofList value))
    | none => (String.ofList chars, none)
  match Parameter.ofName? name, Flag.ofName? name, value with
  | some parameter, _, some value => reading.give parameter value
  | some parameter, _, none => reading.expect parameter
  | none, some flag, some value => .error (.flagWithValue flag value)
  | none, some flag, none => reading.raise flag
  | none, none, _ => .error (.unknownArgument ("--" ++ name))

/-- Read the letters behind one dash: flags, and at last perhaps an option with a value. -/
def readLetters (reading : Reading) : List Char → Except UsageError Reading
  | [] => .ok reading
  | letter :: rest =>
    match Parameter.ofLetter? letter, Flag.ofLetter? letter with
    | some parameter, _ =>
      match rest with
      | [] => reading.expect parameter
      | '=' :: value => reading.give parameter (String.ofList value)
      | value => reading.give parameter (String.ofList value)
    | none, some flag =>
      match reading.raise flag with
      | .error e => .error e
      | .ok reading => readLetters reading rest
    | none, none => .error (.unknownArgument (String.ofList ['-', letter]))

/-- Read an argument other than two dashes. -/
def readArgument (reading : Reading) (argument : String) : Except UsageError Reading :=
  match argument.toList, reading.pending with
  | '-' :: '-' :: rest, _ => reading.readLong rest
  | '-' :: letter :: rest, _ => reading.readLetters (letter :: rest)
  | _, .expecting parameter => .ok { reading with pending := .given parameter argument }
  | _, _ => reading.readPlain argument

/-- Read arguments of which none is an option. -/
def readPlains (reading : Reading) : List String → Except UsageError Reading
  | [] => .ok reading
  | argument :: rest =>
    match reading.readPlain argument with
    | .error e => .error e
    | .ok reading => readPlains reading rest

def readAll (reading : Reading) : List String → Except UsageError Reading
  | [] => .ok reading
  | argument :: rest =>
    if argument = "--" then reading.readPlains rest
    else match reading.readArgument argument with
      | .error e => .error e
      | .ok reading => readAll reading rest

end Reading

/-- What a command line says. -/
def read (arguments : List String) : Except UsageError Arguments := do
  let reading ← Reading.start.readAll arguments
  let draft ← reading.settle
  draft.finish

end ProxyHandshake.CommandLine
