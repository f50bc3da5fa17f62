import ProxyHandshake.Bytes.Utf8
import ProxyHandshake.Text.Letters

/-!
# Headers

A header has a name, which is compared without regard to case and kept in small letters, and a
value of bytes.  Headers keep the order in which they came, and a name may occur several times.
-/

namespace ProxyHandshake

/-! ## Names -/

/-- A character of a name or of a method, apart from letters. -/
def isTokenMark (c : Char) : Bool :=
  c.isDigit || "!#$%&'*+-.^_\x60|~".toList.contains c

def isHeaderName (chars : List Char) : Bool :=
  !chars.isEmpty && chars.all fun c => c.isLower || isTokenMark c

structure HeaderName where
  text : String
  legal : isHeaderName text.toList
deriving DecidableEq, Repr

namespace HeaderName

def longest : Nat := 65535

/-- The name that `text` spells in any case. -/
def ofText? (text : String) : Option HeaderName :=
  if h : isHeaderName (Text.lower text).toList ∧ text.length ≤ longest then
    some ⟨Text.lower text, h.1⟩
  else none

/-- The name that the characters of `bytes` spell. -/
def ofBytes? (bytes : Bytes) : Option HeaderName :=
  (Utf8.decode? bytes).bind ofText?

def invalidText : String := "invalid HTTP header name"

def connection : HeaderName := ⟨"connection", by decide⟩
def contentLength : HeaderName := ⟨"content-length", by decide⟩
def host : HeaderName := ⟨"host", by decide⟩
def keepAlive : HeaderName := ⟨"keep-alive", by decide⟩
def proxyAuthenticate : HeaderName := ⟨"proxy-authenticate", by decide⟩
def proxyAuthorization : HeaderName := ⟨"proxy-authorization", by decide⟩
def proxyConnection : HeaderName := ⟨"proxy-connection", by decide⟩
def te : HeaderName := ⟨"te", by decide⟩
def trailer : HeaderName := ⟨"trailer", by decide⟩
def transferEncoding : HeaderName := ⟨"transfer-encoding", by decide⟩
def upgrade : HeaderName := ⟨"upgrade", by decide⟩

end HeaderName

/-! ## Values -/

/-- Any byte but the control characters; tabs are allowed. -/
def isHeaderByte (b : UInt8) : Bool :=
  b == 9 || (32 ≤ b && b != 127)

structure HeaderValue where
  bytes : Bytes
  legal : bytes.all isHeaderByte
  /-- Whether listings have to hide the value. -/
  isSensitive : Bool := false
deriving DecidableEq, Repr

namespace HeaderValue

def ofBytes? (bytes : Bytes) : Option HeaderValue :=
  if h : bytes.all isHeaderByte then some { bytes := bytes, legal := h } else none

def ofText? (text : String) : Option HeaderValue :=
  ofBytes? (Utf8.encode text)

def invalidText : String := "failed to parse header value"

def isTextByte (b : UInt8) : Bool :=
  b == 9 || (32 ≤ b && b < 127)

/-- The value as text, if all its bytes are visible ASCII, blanks or tabs. -/
def text? (value : HeaderValue) : Option (List Char) :=
  if value.bytes.all isTextByte then some (value.bytes.map fun b => Char.ofNat b.toNat) else none

end HeaderValue

/-! ## Lists of headers -/

structure Headers where
  entries : List (HeaderName × HeaderValue)
deriving DecidableEq, Repr

namespace Headers

def empty : Headers := ⟨[]⟩

/-- The values of `name` in their order. -/
def values (headers : Headers) (name : HeaderName) : List HeaderValue :=
  headers.entries.filterMap fun (n, value) => if n = name then some value else none

def first? (headers : Headers) (name : HeaderName) : Option HeaderValue :=
  (headers.values name).head?

def append (headers : Headers) (name : HeaderName) (value : HeaderValue) : Headers :=
  ⟨headers.entries ++ [(name, value)]⟩

def remove (headers : Headers) (name : HeaderName) : Headers :=
  ⟨headers.entries.filter fun entry => entry.1 ≠ name⟩

/-- Make `value` the only value of `name`. -/
def put (headers : Headers) (name : HeaderName) (value : HeaderValue) : Headers :=
  (headers.remove name).append name value

def names (headers : Headers) : List HeaderName :=
  headers.entries.map (·.1)

/-- The headers in the order of the first occurrence of their names, the values of a name
together. -/
def grouped (headers : Headers) : List (HeaderName × HeaderValue) :=
  headers.names.eraseDups.flatMap fun name => (headers.values name).map fun value => (name, value)

end Headers

end ProxyHandshake
