import ProxyHandshake.Url.Host

/-!
# URLs

A URL is kept in its parts, each in the form in which it is written.  Schemes of the web have a
default port and are written with it left out.
-/

namespace ProxyHandshake

/-- Which rules the rest of a URL follows. -/
inductive SchemeKind where
  | web
  | file
  | other
deriving DecidableEq, Repr

def SchemeKind.of (scheme : String) : SchemeKind :=
  if scheme = "file" then .file
  else if ["http", "https", "ws", "wss", "ftp"].contains scheme then .web
  else .other

def defaultPort? (scheme : String) : Option Nat :=
  if scheme = "http" || scheme = "ws" then some 80
  else if scheme = "https" || scheme = "wss" then some 443
  else if scheme = "ftp" then some 21
  else none

inductive UrlPath where
  /-- A path that is one text. -/
  | opaquePath (text : String)
  /-- A path of segments, each behind a slash. -/
  | segments (list : List String)
deriving DecidableEq, Repr

def UrlPath.text : UrlPath → String
  | .opaquePath text => text
  | .segments list => list.foldr (fun segment rest => "/" ++ segment ++ rest) ""

structure Url where
  scheme : String
  username : String
  password : Option String
  host : Option Host
  /-- The port, unless it is the default of the scheme. -/
  port : Option Nat
  path : UrlPath
  query : Option String
  fragment : Option String
deriving DecidableEq, Repr

namespace Url

/-- The user and password with the sign behind them. -/
def userText (url : Url) : String :=
  match url.password with
  | some password => url.username ++ ":" ++ password ++ "@"
  | none => if url.username = "" then "" else url.username ++ "@"

def portText (url : Url) : String :=
  match url.port with
  | some port => ":" ++ toString port
  | none => ""

/-- What stands between the scheme and the path.  Without a host, a path that begins with two
slashes is kept from looking like one. -/
def hostPart (url : Url) : String :=
  match url.host with
  | some host => "//" ++ url.userText ++ host.text ++ url.portText
  | none => if url.path.text.startsWith "//" then "/." else ""

def queryText (url : Url) : String :=
  match url.query with
  | some query => "?" ++ query
  | none => ""

def fragmentText (url : Url) : String :=
  match url.fragment with
  | some fragment => "#" ++ fragment
  | none => ""

def text (url : Url) : String :=
  url.scheme ++ ":" ++ url.hostPart ++ url.path.text ++ url.queryText ++ url.fragmentText

/-- The host, unless it is empty. -/
def host? (url : Url) : Option Host :=
  url.host.filter fun host => !host.isEmpty

/-- The host as the URL writes it. -/
def hostText? (url : Url) : Option String :=
  url.host?.map Host.text

/-- The port that a connection goes to. -/
def effectivePort? (url : Url) : Option Nat :=
  url.port.or (defaultPort? url.scheme)

/-- Whether the URL names a user or holds a password. -/
def hasUser (url : Url) : Bool :=
  url.username ≠ "" || url.password.isSome

/-- The URL with its password masked, for messages. -/
def masked (url : Url) : Url :=
  { url with password := url.password.map fun _ => "***" }

/-- The text of the URL that messages show. -/
def redacted (url : Url) : String :=
  url.masked.text

end Url

end ProxyHandshake
