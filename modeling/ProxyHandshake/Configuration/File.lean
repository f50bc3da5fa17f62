import ProxyHandshake.Configuration
import ProxyHandshake.Text.Number
import ProxyHandshake.Toml.Reader

/-!
# Configuration files

A configuration file is a TOML document with a table `proxy`.  Names that mean nothing are passed
over, values of the wrong type are errors.  The table may also be given as an array that holds the
values in their order; a date, which has no values, counts as an empty table.

The password has its own sources: the environment goes before a file, and the configuration file
itself is none, so that it can be shown around.
-/

namespace ProxyHandshake

namespace Configuration

/-! ## Values -/

/-- The names in a table `proxy`, in their order. -/
def fieldNames : List String :=
  ["url", "username", "domain", "password_file", "keytab", "ccache", "strict_mutual_auth",
    "timeout_secs", "service"]

/-- The value of each name. -/
abbrev Section := String → Option Toml.Value

def sectionOfItems (items : List Toml.Value) : Section :=
  fun name => (fieldNames.zip items).lookup name

def sectionOf? : Toml.Value → Option Section
  | .table _ entries => some fun name => Toml.Table.get? entries name
  | .array items => some (sectionOfItems items)
  | .tables earlier last =>
    some (sectionOfItems ((earlier ++ [last]).map fun entries => .table .header entries))
  | .moment _ => some fun _ => none
  | _ => none

def text? : Toml.Value → Option String
  | .string text => some text
  | _ => none

def path? (value : Toml.Value) : Option Bytes :=
  (text? value).map Utf8.encode

def boolean? : Toml.Value → Option Bool
  | .boolean b => some b
  | _ => none

def number? : Toml.Value → Option Nat
  | .integer n => if 0 ≤ n ∧ n < Text.numberLimit then some n.toNat else none
  | _ => none

/-- The value of a name, if it has one; the outer option tells whether it has the right type. -/
def field? {α : Type} (values : Section) (name : String) (read : Toml.Value → Option α) :
    Option (Option α) :=
  match values name with
  | none => some none
  | some value => (read value).map some

def ofSection? (values : Section) : Option Configuration := do
  let url ← field? values "url" text?
  let username ← field? values "username" text?
  let domain ← field? values "domain" text?
  let passwordFile ← field? values "password_file" path?
  let keytab ← field? values "keytab" path?
  let ticketCache ← field? values "ccache" path?
  let isStrict ← field? values "strict_mutual_auth" boolean?
  let timeoutSeconds ← field? values "timeout_secs" number?
  let service ← field? values "service" text?
  some
    { url := url
      username := username
      domain := domain
      password := none
      passwordFile := passwordFile
      keytab := keytab
      ticketCache := ticketCache
      isStrict := isStrict.getD default.isStrict
      timeoutSeconds := timeoutSeconds.getD default.timeoutSeconds
      service := service.getD default.service }

/-- The configuration that a document holds. -/
def ofDocument? (document : String) : Option Configuration :=
  match Toml.read document with
  | none => none
  | some table =>
    match table.get? "proxy" with
    | none => some default
    | some value => (sectionOf? value).bind ofSection?

/-! ## Passwords -/

def passwordVariable : String := "PROXY_PASSWORD"

/-- The password in a file; a blank one counts as none. -/
def passwordIn (files : FileSystem) (path : Bytes) :
    Except ConfigurationCause (Option Secret) :=
  match files.readText path with
  | .error cause => .error (.unreadablePassword path cause)
  | .ok text => .ok (if Text.isBlankText text then none else some ⟨Text.trim text⟩)

/-- The configuration with the password that the environment or a file holds. -/
def withPassword (configuration : Configuration) (files : FileSystem)
    (environment : Environment) : Except ConfigurationError Configuration :=
  match environment.text? passwordVariable with
  | some password => .ok { configuration with password := some ⟨password⟩ }
  | none =>
    match configuration.passwordFile with
    | none => .ok configuration
    | some path =>
      match passwordIn files path with
      | .error cause => .error (.invalid cause)
      | .ok none => .ok configuration
      | .ok (some password) => .ok { configuration with password := some password }

/-! ## Files -/

def pathVariable : String := "CONFIG_PATH"

def defaultPath : Bytes := Utf8.encode "spnego-fetch.toml"

/-- The path of the configuration file, and whether somebody asked for it. -/
def resolvePath (argument : Option Bytes) (environment : Environment) : Bytes × Bool :=
  match argument, environment.text? pathVariable with
  | some path, _ => (path, true)
  | none, some path => (Utf8.encode path, true)
  | none, none => (defaultPath, false)

/-- The configuration in the file at `path`. -/
def load (files : FileSystem) (environment : Environment) (path : Bytes) :
    Except ConfigurationError Configuration :=
  match files.readText path with
  | .error cause => .error (.io cause)
  | .ok document =>
    match ofDocument? document with
    | none => .error .unreadable
    | some configuration => configuration.withPassword files environment

/-- The same, but a file for which nobody asked need not exist. -/
def loadOrDefault (files : FileSystem) (environment : Environment) (path : Bytes)
    (explicit : Bool) : Except ConfigurationError Configuration :=
  if !explicit && !files.hasPath path then default.withPassword files environment
  else load files environment path

end Configuration

/-- The secret that a document holds under the name `password`. -/
def Secret.ofDocument? (document : String) : Option Secret :=
  ((Toml.read document).bind fun table => table.get? "password").bind fun value =>
    (Configuration.text? value).map Secret.mk

end ProxyHandshake
