import ProxyHandshake.Settings
import ProxyHandshake.Url.Parser

/-!
# Configuration

What the user says about the proxy and about himself, in a file, in the environment or on the
command line.  Nothing of it is checked as it is read; the checks come when settings are made of
it.
-/

namespace ProxyHandshake

/-! ## Errors -/

/-- What is wrong with a configuration. -/
inductive ConfigurationCause where
  | noProxy
  | invalidProxy (cause : UrlError)
  | proxyWithUser
  | proxyNotHttp (proxy : String)
  | proxyWithoutHost (proxy : String)
  | noTime
  | noService
  | passwordWithoutUser
  | unreadablePassword (path : Bytes) (cause : FileError)
  /-- A cause in the words of the caller. -/
  | reported (detail : String)
deriving DecidableEq, Repr

def ConfigurationCause.message : ConfigurationCause → String
  | .noProxy => "proxy url is required (--proxy-url or [proxy] url)"
  | .invalidProxy cause => "proxy url is not a valid URL: " ++ cause.message
  | .proxyWithUser =>
    "proxy url must not embed credentials; use --proxy-username and PROXY_PASSWORD"
  | .proxyNotHttp proxy => "proxy url must start with http://, got: " ++ proxy
  | .proxyWithoutHost proxy => "proxy url " ++ proxy ++ " is missing a host"
  | .noTime => "timeout_secs must be greater than 0"
  | .noService => "service must not be empty"
  | .passwordWithoutUser => "a proxy password was given without a username"
  | .unreadablePassword path cause =>
    "failed to read password_file " ++ Utf8.decodeLossy path ++ ": " ++ cause.message
  | .reported detail => detail

inductive ConfigurationError where
  | invalid (cause : ConfigurationCause)
  | io (cause : FileError)
  /-- The file is no document, or holds a value of the wrong type. -/
  | unreadable
deriving DecidableEq, Repr

def ConfigurationError.message : ConfigurationError → String
  | .invalid cause => "Configuration error: " ++ cause.message
  | .io cause => "I/O error: " ++ cause.message
  | .unreadable => "TOML parse error"

/-! ## Configurations -/

structure Configuration where
  url : Option String
  username : Option String
  /-- The realm of the user. -/
  domain : Option String
  password : Option Secret
  passwordFile : Option Bytes
  keytab : Option Bytes
  ticketCache : Option Bytes
  isStrict : Bool
  timeoutSeconds : Nat
  service : String
deriving DecidableEq

namespace Configuration

/-- The configuration of a user who says nothing. -/
def default : Configuration where
  url := none
  username := none
  domain := none
  password := none
  passwordFile := none
  keytab := none
  ticketCache := none
  isStrict := false
  timeoutSeconds := 30
  service := ServicePrincipal.defaultService

end Configuration

/-- What the command line says in place of a configuration. -/
structure Overrides where
  url : Option String
  username : Option String
  domain : Option String
  password : Option String
  keytab : Option Bytes
  ticketCache : Option Bytes
  isStrict : Bool
  timeoutSeconds : Option Nat
  service : Option String
deriving DecidableEq

namespace Configuration

/-- The configuration with what the command line says in its place. -/
def override (configuration : Configuration) (overrides : Overrides) : Configuration :=
  { configuration with
    url := overrides.url.or configuration.url
    username := overrides.username.or configuration.username
    domain := overrides.domain.or configuration.domain
    password := (overrides.password.map Secret.mk).or configuration.password
    keytab := overrides.keytab.or configuration.keytab
    ticketCache := overrides.ticketCache.or configuration.ticketCache
    isStrict := configuration.isStrict || overrides.isStrict
    timeoutSeconds := overrides.timeoutSeconds.getD configuration.timeoutSeconds
    service := overrides.service.getD configuration.service }

/-! ## Checks -/

/-- The URL of the proxy. -/
def proxyUrl (configuration : Configuration) : Except ConfigurationCause Url :=
  match configuration.url with
  | none => .error .noProxy
  | some text =>
    match Url.parse text with
    | .error cause => .error (.invalidProxy cause)
    | .ok url =>
      if url.hasUser then .error .proxyWithUser
      else if url.scheme ≠ "http" then .error (.proxyNotHttp text)
      else if url.host?.isNone then .error (.proxyWithoutHost text)
      else .ok url

def validate (configuration : Configuration) : Except ConfigurationCause Unit :=
  match configuration.proxyUrl with
  | .error cause => .error cause
  | .ok _ =>
    if configuration.timeoutSeconds = 0 then .error .noTime
    else if Text.isBlankText configuration.service then .error .noService
    else if configuration.password.isSome && configuration.username.isNone then
      .error .passwordWithoutUser
    else .ok ()

/-! ## Settings -/

/-- The principal of the keys in a keytab. -/
def keytabPrincipal (configuration : Configuration) : Option String :=
  match configuration.username, configuration.domain with
  | some user, some realm =>
    if user.toList.any fun c => c = '@' || c = '\\' then some user
    else some (user ++ "@" ++ realm)
  | user, _ => user

/-- The source of the client's identity: a password goes before a keytab, and a keytab before a
ticket cache. -/
def credentials (configuration : Configuration) : Credentials :=
  match configuration.username, configuration.password with
  | some username, some password =>
    .ofPassword username password configuration.domain
  | _, _ =>
    match configuration.keytab, configuration.ticketCache with
    | some path, _ => .keytab path configuration.keytabPrincipal
    | none, some path => .ticketCache path
    | none, none => .ambient

def settings (configuration : Configuration) : Except ConfigurationCause Settings :=
  match configuration.validate with
  | .error cause => .error cause
  | .ok () =>
    configuration.proxyUrl.map fun proxy =>
      { proxy := proxy
        credentials := configuration.credentials
        service := Text.trim configuration.service
        isStrict := configuration.isStrict
        timeout := some (.ofSeconds configuration.timeoutSeconds) }

/-- The environment in which the authentication library finds the configured files. -/
def exported (configuration : Configuration) (environment : Environment) : Environment :=
  let environment :=
    match configuration.keytab with
    | some path => environment.set Credentials.keytabVariable path
    | none => environment
  match configuration.ticketCache with
  | some path => environment.set Credentials.cacheVariable path
  | none => environment

/-! ## Listings -/

def shownPath (path : Option Bytes) : String :=
  Text.optional (path.map Text.quotedBytes)

/-- A listing of the configuration, with the password hidden. -/
def shown (configuration : Configuration) : String :=
  let fields :=
    [("url", Credentials.shownText configuration.url),
      ("username", Credentials.shownText configuration.username),
      ("domain", Credentials.shownText configuration.domain),
      ("password", Text.optional (configuration.password.map fun _ => Secret.shown)),
      ("password_file", shownPath configuration.passwordFile),
      ("keytab", shownPath configuration.keytab),
      ("ccache", shownPath configuration.ticketCache),
      ("strict_mutual_auth", toString configuration.isStrict),
      ("timeout_secs", toString configuration.timeoutSeconds),
      ("service", Text.quoted configuration.service)]
  "Config \x7b proxy: ProxyConfig \x7b " ++
    ", ".intercalate (fields.map fun (name, text) => name ++ ": " ++ text) ++ " \x7d \x7d"

end Configuration

end ProxyHandshake
