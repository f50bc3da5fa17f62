import ProxyHandshake.Text.Number
import ProxyHandshake.Url.Basic

/-!
# Reading URLs

The text of a URL is cut into its parts from left to right: scheme, user, host, port, path, query
and fragment.  Blanks and control characters around it are ignored, tabs and line ends everywhere.
Every part is brought into the one form in which it is written again, so that two texts of a URL
give the same value.
-/

namespace ProxyHandshake.Url

/-- The characters of a text that belong to a URL. -/
def significant (text : String) : List Char :=
  let isEdge := fun c : Char => decide (c.toNat ≤ 0x20)
  let inner := (text.toList.dropWhile isEdge).reverse.dropWhile isEdge
  inner.reverse.filter fun c => c ≠ '\t' && c ≠ '\n' && c ≠ '\r'

def isSchemeChar (c : Char) : Bool :=
  c.isAlphanum || c == '+' || c == '-' || c == '.'

/-- The scheme, in small letters, and what is behind its colon. -/
def readScheme (text : List Char) : Except UrlError (String × List Char) :=
  match text with
  | [] => .error .noScheme
  | c :: _ =>
    match Text.cutFirst? (· == ':') text with
    | none => .error .noScheme
    | some (scheme, rest) =>
      if c.isAlpha && scheme.all isSchemeChar then
        .ok (String.ofList (Text.lowerChars scheme), rest)
      else .error .noScheme

/-! ## Path, query and fragment -/

def isSlash (kind : SchemeKind) (c : Char) : Bool :=
  c == '/' || (c == '\\' && kind ≠ .other)

/-- A letter of a drive, as old file names write it. -/
def isDrive : List Char → Bool
  | [c, d] => c.isAlpha && (d == ':' || d == '|')
  | c :: d :: '\\' :: _ => c.isAlpha && (d == ':' || d == '|')
  | _ => false

/-- A segment with its encoded dots decoded, for comparison only. -/
def withDots : List Char → List Char
  | '%' :: '2' :: e :: rest =>
    if e = 'e' || e = 'E' then '.' :: withDots rest else '%' :: '2' :: e :: withDots rest
  | c :: rest => c :: withDots rest
  | [] => []

/-- The segments so far, the last one first, without the last; a drive stays. -/
def goUp : List (List Char) → List (List Char)
  | [] => []
  | segment :: rest => if isDrive segment then segment :: rest else rest

/-- Go through the segments of a path.  `done` holds those before, the last one first; one dot
stays where it is, two dots go up. -/
def walk (done : List (List Char)) : List (List Char) → List (List Char)
  | [] => done
  | segment :: rest =>
    let atEnd := fun done : List (List Char) => if rest = [] then [] :: done else done
    if withDots segment = ['.', '.'] then walk (atEnd (goUp done)) rest
    else if withDots segment = ['.'] then walk (atEnd done) rest
    else walk (segment :: done) rest

/-- In a file URL a drive in front is written with a colon. -/
def plainDrive : List (List Char) → List (List Char)
  | [c, _] :: rest => [c, ':'] :: rest
  | segments => segments

/-- The segments of the path `text`, which is written behind a first slash. -/
def readSegments (kind : SchemeKind) (text : List Char) : List (List Char) :=
  let raw := (Text.pieces (isSlash kind) text).map (Percent.encodeChars Percent.pathSet)
  let raw := if kind = .file && (raw.head?.any isDrive) then plainDrive raw else raw
  let segments := (walk [] raw).reverse
  if kind = .file then
    match segments.dropWhile (· = []) with
    | [] => [[]]
    | rest => rest
  else segments

def segmentPath (segments : List (List Char)) : UrlPath :=
  .segments (segments.map String.ofList)

def isPathEnd (c : Char) : Bool :=
  c == '?' || c == '#'

/-- The part in front of the query and the fragment, and those two. -/
def cutTail (kind : SchemeKind) (text : List Char) :
    List Char × Option String × Option String :=
  let (body, fragment) :=
    match Text.cutFirst? (· == '#') text with
    | some (body, fragment) => (body, some (Percent.encode Percent.fragmentSet fragment))
    | none => (text, none)
  let querySet := if kind = .other then Percent.querySet else Percent.webQuerySet
  match Text.cutFirst? (· == '?') body with
  | some (path, query) => (path, some (Percent.encode querySet query), fragment)
  | none => (body, none, fragment)

/-! ## User, host and port -/

structure User where
  username : String
  password : Option String

/-- The user and the password that stand in front of a host. -/
def readUser (text : List Char) : User :=
  let encode := Percent.encode Percent.userSet
  match Text.cutFirst? (· == ':') text with
  | none => ⟨encode text, none⟩
  | some (username, []) => ⟨encode username, none⟩
  | some (username, password) => ⟨encode username, some (encode password)⟩

/-- Whether something is written for the user. -/
def User.isWritten (user : User) : Bool :=
  user.username ≠ "" || user.password.isSome

/-- What stands before the path of a text that begins with its user or host, and the path with
what is behind it. -/
def cutAuthority (kind : SchemeKind) (text : List Char) : List Char × List Char :=
  text.span fun c => !(isSlash kind c || isPathEnd c)

/-- Cut the host from the port, at the first colon outside brackets. -/
def cutPort (inside : Bool) : List Char → List Char × Option (List Char)
  | [] => ([], none)
  | c :: rest =>
    if c == ':' && !inside then ([], some rest)
    else
      let (host, port) := cutPort (c == '[' || (inside && c != ']')) rest
      (c :: host, port)

/-- The port, unless it is the default one, and the path behind it when a backslash ends it. -/
def readPort (scheme : String) (text : List Char) : Except UrlError (Option Nat × List Char) :=
  let digits := text.takeWhile Char.isDigit
  let rest := text.dropWhile Char.isDigit
  if rest ≠ [] && rest.head? ≠ some '\\' then .error .invalidPort
  else if 65535 < Text.numeral 10 digits then .error .invalidPort
  else
    let port := Text.numeral 10 digits
    if digits = [] || defaultPort? scheme = some port then .ok (none, rest)
    else .ok (some port, rest)

/-- A URL behind the two slashes in front of its host. -/
def readBehindSlashes (scheme : String) (kind : SchemeKind) (text : List Char) :
    Except UrlError Url := do
  let (authority, behind) := cutAuthority kind text
  let (user, place) :=
    match Text.cutLast? (· == '@') authority with
    | some (user, place) => (readUser user, place)
    | none => (readUser [], authority)
  let (hostChars, portChars) := cutPort false place
  if authority = ['@'] && behind ≠ [] then throw .emptyHost
  if hostChars = [] && kind = .web then throw .emptyHost
  let host ← if kind = .other then Host.parseOpaque hostChars else Host.parse hostChars
  if hostChars = [] && (portChars.isSome || user.isWritten) then throw .emptyHost
  let (port, extra) ←
    match portChars with
    | none => pure (none, [])
    | some digits => readPort scheme digits
  let (path, query, fragment) := cutTail kind (extra ++ behind)
  let segments :=
    if kind = .other then
      match path with
      | [] => []
      | c :: rest => readSegments kind (if c = '/' then rest else c :: rest)
    else
      match path with
      | [] => [[]]
      | c :: rest => readSegments kind (if isSlash kind c then rest else c :: rest)
  return {
    scheme := scheme, username := user.username, password := user.password
    host := some host, port := port, path := segmentPath segments
    query := query, fragment := fragment }

/-! ## File URLs -/

/-- The host of a file URL, and whether it is named. -/
def readFileHost (text : List Char) : Except UrlError Host :=
  if text = [] then .ok (.domain "")
  else
    match Host.parse text with
    | .ok (.domain "localhost") => .ok (.domain "")
    | result => result

def readFile (text : List Char) : Except UrlError Url := do
  let (front, query, fragment) := cutTail .file text
  let build := fun (host : Host) (path : List Char) =>
    let segments := readSegments .file path
    let host := if (Text.pieces (isSlash .file) path).head?.any isDrive then .domain "" else host
    ({ scheme := "file", username := "", password := none, host := some host, port := none
       path := segmentPath segments, query := query, fragment := fragment } : Url)
  match front with
  | a :: b :: rest =>
    if isSlash .file a && isSlash .file b then
      let hostChars := rest.takeWhile fun c => !isSlash .file c
      if isDrive hostChars then return build (.domain "") rest
      else
        let host ← readFileHost hostChars
        return build host ((rest.drop hostChars.length).drop 1)
    else if isSlash .file a then return build (.domain "") (b :: rest)
    else return build (.domain "") front
  | [a] => return build (.domain "") (if isSlash .file a then [] else [a])
  | [] => return build (.domain "") []

/-! ## All URLs -/

/-- A URL without a place for a host. -/
def readHostless (scheme : String) (text : List Char) : Url :=
  let (path, query, fragment) := cutTail .other text
  let path :=
    match path with
    | '/' :: rest => segmentPath (readSegments .other rest)
    | _ => .opaquePath (Percent.encode [] path)
  { scheme := scheme, username := "", password := none, host := none, port := none
    path := path, query := query, fragment := fragment }

def parse (text : String) : Except UrlError Url := do
  let (scheme, rest) ← readScheme (significant text)
  match SchemeKind.of scheme with
  | .file => readFile rest
  | .web => readBehindSlashes scheme .web (rest.dropWhile (isSlash .web))
  | .other =>
    match Text.behind? ['/', '/'] rest with
    | some behind => readBehindSlashes scheme .other behind
    | none => return readHostless scheme rest

end ProxyHandshake.Url
