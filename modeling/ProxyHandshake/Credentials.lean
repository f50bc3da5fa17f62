import ProxyHandshake.Files
import ProxyHandshake.Secret
import ProxyHandshake.Text.Quoted
import ProxyHandshake.Text.Split
import ProxyHandshake.Unicode.UpperCase

/-!
# Credentials

The client proves who it is with a password, with keys from a file, or with tickets from a cache.
Whether a source can be of any use is checked before it is used: names and passwords must not be
blank, and files must exist.

The authentication library finds files by environment variables only, so a file that the
environment does not name would be ignored, and another identity would be used in its place.
-/

namespace ProxyHandshake

/-- Which of the two kinds of files a message is about. -/
inductive CredentialFile where
  | keytab
  | ticketCache
deriving DecidableEq, Repr

def CredentialFile.text : CredentialFile → String
  | .keytab => "keytab"
  | .ticketCache => "ticket cache"

/-- Why there is no usable credential. -/
inductive CredentialError where
  | emptyUsername
  | invalidUsername (username : String)
  | noPassword (principal : String)
  | notAFile (kind : CredentialFile) (path : Bytes)
  | unreadable (kind : CredentialFile) (path : Bytes) (cause : FileError)
  /-- The library would read another file than the configured one. -/
  | otherLocation (name : String) (actual expected : Bytes)
  | noLocation (name : String) (expected : Bytes)
  | noLibrary
  /-- A cause in the words of the authentication library. -/
  | reported (detail : String)
deriving DecidableEq, Repr

def CredentialError.message : CredentialError → String
  | .emptyUsername => "proxy username is empty"
  | .invalidUsername username =>
    "proxy username " ++ Text.quoted username ++ " is not a valid principal"
  | .noPassword principal => "no password supplied for " ++ principal
  | .notAFile kind path => kind.text ++ " " ++ Utf8.decodeLossy path ++ " is not a regular file"
  | .unreadable kind path cause =>
    kind.text ++ " " ++ Utf8.decodeLossy path ++ " is not readable: " ++ cause.message
  | .otherLocation name actual expected =>
    name ++ " is " ++ Utf8.decodeLossy actual ++ " but " ++ Utf8.decodeLossy expected ++
      " was configured"
  | .noLocation name expected =>
    name ++ " must be set to " ++ Utf8.decodeLossy expected ++
      " before credentials are acquired"
  | .noLibrary => "built without Kerberos support (enable the \x60gssapi\x60 feature)"
  | .reported detail => detail

/-- Where the identity of the client comes from. -/
inductive Credentials where
  | password (username : String) (secret : Secret) (realm : Option String)
  | keytab (path : Bytes) (principal : Option String)
  | ticketCache (path : Bytes)
  /-- The cache that the library uses by itself. -/
  | ambient
deriving DecidableEq

namespace Credentials

/-- Credentials of a user with a password; a blank domain counts as none. -/
def ofPassword (username : String) (secret : Secret) (domain : Option String) : Credentials :=
  .password username secret (domain.filter fun d => !Text.isBlankText d)

/-! ## Principals -/

def qualified (user realm : List Char) : String :=
  String.ofList (user ++ '@' :: Unicode.upperCaseChars realm)

/-- The principal of a user name, which may hold its realm as `user@REALM` or `DOMAIN\user`. -/
def qualify (username : String) (realm : Option String) : String :=
  let name := Text.trimChars username.toList
  match Text.cutFirst? (· == '\\') name with
  | some (domain, user) => qualified user domain
  | none =>
    match Text.cutLast? (· == '@') name with
    | some (user, embedded) => qualified user embedded
    | none =>
      match realm with
      | some realm => qualified name (Text.trimChars realm.toList)
      | none => String.ofList name

/-- The principal of the client, when the source names one. -/
def principal? : Credentials → Option String
  | .password username _ realm => some (qualify username realm)
  | .keytab _ principal => principal.map fun p => qualify p none
  | .ticketCache _ => none
  | .ambient => none

/-! ## Locations -/

/-- What may stand in front of the path of a file. -/
def fileMark : List Char := "FILE:".toList

/-- A location without the mark of files. -/
def plainLocation (path : Bytes) : List Char :=
  let shown := (Utf8.decodeLossy path).toList
  (Text.behind? fileMark shown).getD shown

/-- Whether two locations name the same file to the library. -/
def sameLocation (a b : Bytes) : Bool :=
  plainLocation a == plainLocation b

/-- The file of a ticket cache; caches of other kinds have none. -/
def cacheFile? (path : Bytes) : Option Bytes :=
  let shown := (Utf8.decodeLossy path).toList
  match Text.behind? fileMark shown with
  | some rest => some (Utf8.encodeChars rest)
  | none =>
    match Text.cutFirst? (· == ':') shown with
    | some (kind, _) => if 1 < (Utf8.encodeChars kind).length then none else some path
    | none => some path

def keytabVariable : String := "KRB5_CLIENT_KTNAME"

def cacheVariable : String := "KRB5CCNAME"

/-- The variable by which the library finds the source, and the location it has to name. -/
def location? : Credentials → Option (String × Bytes)
  | .keytab path _ => some (keytabVariable, path)
  | .ticketCache path => some (cacheVariable, path)
  | .password .. => none
  | .ambient => none

/-- What the value of a variable says about the location that it has to name. -/
def judgeLocation (name : String) (expected : Bytes) : Option Bytes → Except CredentialError Unit
  | none => .error (.noLocation name expected)
  | some actual =>
    if sameLocation actual expected then .ok () else .error (.otherLocation name actual expected)

/-- Check that the library would read the configured file; `look` finds the value of a variable. -/
def checkLocationBy {m : Type → Type} [Monad m] (look : String → m (Option Bytes))
    (credentials : Credentials) : m (Except CredentialError Unit) :=
  match credentials.location? with
  | none => pure (.ok ())
  | some (name, expected) => do
    let found ← look name
    return judgeLocation name expected found

/-- Check the location with the variables of an environment. -/
def checkLocation (credentials : Credentials) (environment : Environment) :
    Except CredentialError Unit :=
  Id.run (credentials.checkLocationBy fun name => pure (environment.get? name))

/-! ## Validation -/

def requireFile (files : FileSystem) (kind : CredentialFile) (path : Bytes) :
    Except CredentialError Unit :=
  match files.find path with
  | .ok node => if node.isFile then .ok () else .error (.notAFile kind path)
  | .error cause => .error (.unreadable kind path cause)

/-- Whether a user name begins or ends with a sign that separates. -/
def isMalformed (user : List Char) : Bool :=
  user.head? == some '@' || user.getLast? == some '@' || user.getLast? == some '\\'

/-- Check that the source can yield a credential. -/
def validate (files : FileSystem) : Credentials → Except CredentialError Unit
  | .password username secret realm =>
    let user := Text.trimChars username.toList
    if user.isEmpty then .error .emptyUsername
    else if isMalformed user then .error (.invalidUsername (String.ofList user))
    else if secret.isBlank then .error (.noPassword (qualify username realm))
    else .ok ()
  | .keytab path _ => requireFile files .keytab path
  | .ticketCache path =>
    match cacheFile? path with
    | some file => requireFile files .ticketCache file
    | none => .ok ()
  | .ambient => .ok ()

/-! ## Listings -/

def shownText (text : Option String) : String :=
  Text.optional (text.map Text.quoted)

/-- A listing of the source, with the password hidden. -/
def shownSource : Credentials → String
  | .password username _ realm =>
    "Password \x7b username: " ++ Text.quoted username ++ ", password: " ++ Secret.shown ++
      ", realm: " ++ shownText realm ++ " \x7d"
  | .keytab path principal =>
    "Keytab \x7b path: " ++ Text.quotedBytes path ++ ", principal: " ++ shownText principal ++
      " \x7d"
  | .ticketCache path =>
    "TicketCache \x7b path: " ++ Text.optional (some (Text.quotedBytes path)) ++ " \x7d"
  | .ambient => "TicketCache \x7b path: None \x7d"

def shown (credentials : Credentials) : String :=
  "ProxyCredentials \x7b source: " ++ credentials.shownSource ++ " \x7d"

end Credentials

end ProxyHandshake
