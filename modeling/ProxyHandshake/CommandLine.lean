import ProxyHandshake.Configuration
import ProxyHandshake.Request
import ProxyHandshake.Text.Number

/-!
# The command line

The command is given the URL to fetch and options.  An option either takes a value or is a flag,
and all of them but headers may stand only once.
-/

namespace ProxyHandshake.CommandLine

/-! ## Options -/

/-- The options that take a value. -/
inductive Parameter where
  | config
  | proxyUrl
  | proxyUsername
  | proxyPassword
  | proxyDomain
  | proxyKeytab
  | proxyCache
  | proxyService
  | timeout
  | method
  | header
  | data
deriving DecidableEq, Repr

namespace Parameter

def all : List Parameter :=
  [.config, .proxyUrl, .proxyUsername, .proxyPassword, .proxyDomain, .proxyKeytab, .proxyCache,
    .proxyService, .timeout, .method, .header, .data]

def name : Parameter → String
  | .config => "config"
  | .proxyUrl => "proxy-url"
  | .proxyUsername => "proxy-username"
  | .proxyPassword => "proxy-password"
  | .proxyDomain => "proxy-domain"
  | .proxyKeytab => "proxy-keytab"
  | .proxyCache => "proxy-ccache"
  | .proxyService => "proxy-service"
  | .timeout => "timeout-secs"
  | .method => "request"
  | .header => "header"
  | .data => "data"

/-- What a description of the option calls its value. -/
def valueName : Parameter → String
  | .config => "CONFIG"
  | .proxyUrl => "PROXY_URL"
  | .proxyUsername => "PROXY_USERNAME"
  | .proxyPassword => "PROXY_PASSWORD"
  | .proxyDomain => "PROXY_DOMAIN"
  | .proxyKeytab => "PROXY_KEYTAB"
  | .proxyCache => "PROXY_CCACHE"
  | .proxyService => "PROXY_SERVICE"
  | .timeout => "TIMEOUT_SECS"
  | .method => "METHOD"
  | .header => "HEADERS"
  | .data => "DATA"

def letter? : Parameter → Option Char
  | .method => some 'X'
  | .header => some 'H'
  | .data => some 'd'
  | _ => none

def ofName? (name : String) : Option Parameter :=
  all.find? fun parameter => parameter.name = name

def ofLetter? (letter : Char) : Option Parameter :=
  all.find? fun parameter => parameter.letter? = some letter

/-- The option with its value, as messages show it. -/
def text (parameter : Parameter) : String :=
  "--" ++ parameter.name ++ " <" ++ parameter.valueName ++ ">"

end Parameter

/-- The options without a value. -/
inductive Flag where
  | strict
  | showHeaders
  | help
  | version
deriving DecidableEq, Repr

namespace Flag

def all : List Flag := [.strict, .showHeaders, .help, .version]

def name : Flag → String
  | .strict => "strict-mutual-auth"
  | .showHeaders => "include"
  | .help => "help"
  | .version => "version"

def letter? : Flag → Option Char
  | .strict => none
  | .showHeaders => some 'i'
  | .help => some 'h'
  | .version => some 'V'

def ofName? (name : String) : Option Flag :=
  all.find? fun flag => flag.name = name

def ofLetter? (letter : Char) : Option Flag :=
  all.find? fun flag => flag.letter? = some letter

def text (flag : Flag) : String := "--" ++ flag.name

end Flag

/-! ## Errors -/

/-- Why a value of an option cannot be read. -/
inductive ValueError where
  | invalidMethod
  | noColon (text : String)
  | invalidHeaderName
  | invalidHeaderValue
  | number (cause : Text.NumberError)
deriving DecidableEq, Repr

def ValueError.message : ValueError → String
  | .invalidMethod => Method.invalidText
  | .noColon text => "expected \x60Name: value\x60, got " ++ Text.quoted text
  | .invalidHeaderName => HeaderName.invalidText
  | .invalidHeaderValue => HeaderValue.invalidText
  | .number cause => cause.message

/-- Why the command line cannot be followed. -/
inductive UsageError where
  | noTarget
  | unknownArgument (text : String)
  /-- An option that was given before. -/
  | repeated (option : String)
  | flagWithValue (flag : Flag) (value : String)
  | noValue (parameter : Parameter)
  | invalidValue (parameter : Parameter) (value : String) (cause : ValueError)
  | helpWanted
  | versionWanted
deriving DecidableEq, Repr

/-- What a description calls the URL to fetch. -/
def targetText : String := "<URL>"

def UsageError.message : UsageError → String
  | .noTarget => "missing " ++ targetText
  | .unknownArgument text => "unexpected argument " ++ Text.quoted text
  | .repeated option => option ++ " cannot be used multiple times"
  | .flagWithValue flag value => "unexpected value " ++ Text.quoted value ++ " for " ++ flag.text
  | .noValue parameter => "missing value for " ++ parameter.text
  | .invalidValue parameter value cause =>
    "invalid value " ++ Text.quoted value ++ " for " ++ parameter.text ++ ": " ++ cause.message
  | .helpWanted =>
    let parameters := Parameter.all.map fun parameter => "[" ++ parameter.text ++ "]"
    let flags := Flag.all.map fun flag => "[" ++ flag.text ++ "]"
    "usage: spnego-fetch " ++ " ".intercalate (parameters ++ flags) ++ " " ++ targetText
  | .versionWanted => "spnego-fetch"

/-! ## Arguments -/

/-- What a command line says. -/
structure Arguments where
  target : String
  configPath : Option Bytes
  overrides : Overrides
  method : Option Method
  headers : List (HeaderName × HeaderValue)
  data : Option String
  /-- Whether the headers of the response are shown. -/
  showsHeaders : Bool
deriving DecidableEq

namespace Arguments

/-- A request without a method is one for the resource or, with a body, one that sends it. -/
def chosenMethod (arguments : Arguments) : Method :=
  arguments.method.getD (if arguments.data.isSome then .post else .get)

def request (arguments : Arguments) : Except RequestError Request :=
  match Url.parse arguments.target with
  | .error cause => .error (.invalidArgument arguments.target cause)
  | .ok url =>
    .ok
      { method := arguments.chosenMethod
        url := url
        headers := ⟨arguments.headers⟩
        body := Utf8.encode (arguments.data.getD "") }

end Arguments

/-! ## Values -/

/-- The method that `text` spells in any case. -/
def readMethod (text : String) : Except ValueError Method :=
  match Method.ofText? (Text.capitals text) with
  | some method => .ok method
  | none => .error .invalidMethod

/-- A header such as `Accept: text/html`. -/
def readHeader (text : String) : Except ValueError (HeaderName × HeaderValue) :=
  match Text.cutFirst? (· == ':') text.toList with
  | none => .error (.noColon text)
  | some (name, value) =>
    match HeaderName.ofText? (String.ofList (Text.trimChars name)) with
    | none => .error .invalidHeaderName
    | some name =>
      match HeaderValue.ofBytes? (Utf8.encodeChars (Text.trimChars value)) with
      | none => .error .invalidHeaderValue
      | some value => .ok (name, value)

def readSeconds (text : String) : Except ValueError Nat :=
  match Text.readNumber text.toList with
  | .ok n => .ok n
  | .error cause => .error (.number cause)

end ProxyHandshake.CommandLine
