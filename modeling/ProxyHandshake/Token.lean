import ProxyHandshake.Bytes.Base64
import ProxyHandshake.Http.Header
import ProxyHandshake.Text.Blank

/-!
# Negotiation tokens

The two sides of a negotiation send each other tokens, which mean nothing to anyone between them.
A token travels in a header as Base64 behind the name of the scheme.
-/

namespace ProxyHandshake

/-- The name of the authentication scheme. -/
def negotiateScheme : String := "Negotiate"

/-- Why a token cannot be read or sent. -/
inductive TokenError where
  | blankText
  | notBase64 (cause : Base64.Error)
  | emptyToken
  | illegalHeader
  /-- A cause in the words of the authentication library. -/
  | reported (detail : String)
deriving DecidableEq, Repr

def TokenError.message : TokenError → String
  | .blankText => "empty token"
  | .notBase64 cause => "not valid base64: " ++ cause.message
  | .emptyToken => "refusing to send an empty token"
  | .illegalHeader => "token is not a valid header value: " ++ HeaderValue.invalidText
  | .reported detail => detail

structure Token where
  bytes : Bytes
deriving DecidableEq, Repr

namespace Token

def ofText (text : String) : Token := ⟨Utf8.encode text⟩

def isEmpty (token : Token) : Bool := token.bytes.isEmpty

def base64 (token : Token) : String := Base64.encode token.bytes

/-- The token that `text` writes in Base64, with blanks around it. -/
def ofBase64 (text : String) : Except TokenError Token :=
  if Text.isBlankText text then .error .blankText
  else match Base64.decode (Text.trim text) with
    | .ok bytes => .ok ⟨bytes⟩
    | .error cause => .error (.notBase64 cause)

/-- The text of the header that carries the token. -/
def headerText (token : Token) : String :=
  negotiateScheme ++ " " ++ token.base64

/-- The header that carries the token to the proxy; listings must hide it. -/
def header (token : Token) : Except TokenError HeaderValue :=
  if token.isEmpty then .error .emptyToken
  else match HeaderValue.ofText? token.headerText with
    | some value => .ok { value with isSensitive := true }
    | none => .error .illegalHeader

/-- What a listing shows of a token: its length. -/
def shown (token : Token) : String :=
  s!"NegotiationToken({token.bytes.length} bytes)"

end Token

end ProxyHandshake
