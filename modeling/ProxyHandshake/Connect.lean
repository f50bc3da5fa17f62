import ProxyHandshake.Failure
import ProxyHandshake.Text.Number

/-!
# Opening a tunnel

The client asks the proxy with `CONNECT` for a connection to the target.  The proxy answers with a
status, headers and an empty line; if it grants the connection, every byte behind that line belongs
to the target, and if it does not, a short text may follow that explains why.  So the answer is read
to the end of its head and not a byte further, and no more than a bounded number of bytes.
-/

namespace ProxyHandshake

/-- What the proxy answered. -/
structure ConnectReply where
  status : Status
  headers : Headers
  body : Bytes
deriving DecidableEq, Repr

namespace Connect

/-! ## The request -/

def lineEnd : Bytes := [13, 10]

/-- The bytes that ask for a connection to `authority`. -/
def requestHead (authority : String) (authorization : Option HeaderValue) : Bytes :=
  Utf8.encode ("CONNECT " ++ authority ++ " HTTP/1.1") ++ lineEnd ++
    Utf8.encode ("Host: " ++ authority) ++ lineEnd ++
    (match authorization with
      | some value => Utf8.encode "Proxy-Authorization: " ++ value.bytes ++ lineEnd
      | none => []) ++
    lineEnd

/-! ## The connection -/

/-- A connection to the proxy, seen from the client. -/
structure Stream where
  /-- What the proxy has sent and the client has not read. -/
  unread : Bytes
  /-- The error behind the last byte; without one the connection ends there. -/
  readError : Option IoError
  /-- The error of every write. -/
  writeError : Option IoError
  written : Bytes
deriving DecidableEq, Repr

namespace Stream

def write (stream : Stream) (bytes : Bytes) : Except TransportError Unit × Stream :=
  match stream.writeError with
  | some cause => (.error (.io cause), stream)
  | none => (.ok (), { stream with written := stream.written ++ bytes })

/-- The stream after the first `count` bytes were read. -/
def skip (stream : Stream) (count : Nat) : Stream :=
  { stream with unread := stream.unread.drop count }

/-- Exactly `count` bytes. -/
def take (stream : Stream) (count : Nat) : Except TransportError Bytes × Stream :=
  if count ≤ stream.unread.length then (.ok (stream.unread.take count), stream.skip count)
  else (.error (.io (stream.readError.getD .earlyEnd)), { stream with unread := [] })

end Stream

/-! ## The head of the answer -/

/-- The number of bytes after which a head that has not ended is given up, less one. -/
def maxHead : Nat := 16 * 1024

/-- Whether bytes end with an empty line; the last one comes first. -/
def endsHead (seen : Bytes) : Bool :=
  seen.take 4 == [10, 13, 10, 13]

/-- Read byte by byte to the end of the head, and not a byte further; `seen` holds the bytes so far, the
last one first, and `readError` is the error behind the last byte. -/
def readOn (readError : Option IoError) (seen : Bytes) :
    Bytes → Except TransportError Bytes × Bytes
  | [] =>
    match readError with
    | some cause => (.error (.io cause), [])
    | none => (.error (.malformed .closedEarly), [])
  | b :: unread =>
    if endsHead (b :: seen) then (.ok (b :: seen).reverse, unread)
    else if maxHead < (b :: seen).length then (.error (.malformed .headTooLong), unread)
    else readOn readError (b :: seen) unread

/-- Read to the end of the head. -/
def readHead (stream : Stream) : Except TransportError Bytes × Stream :=
  let (head, unread) := readOn stream.readError [] stream.unread
  (head, { stream with unread := unread })

/-- The lines of a text. -/
def lines : List Char → List (List Char)
  | '\r' :: '\n' :: rest => [] :: lines rest
  | c :: rest => Text.growFirst c (lines rest)
  | [] => [[]]

/-- The status in a line such as `HTTP/1.1 200 OK`. -/
def readStatus (line : List Char) : Except MalformedCause Status :=
  let bad := MalformedCause.badStatusLine (String.ofList line)
  match Text.pieces (· == ' ') line with
  | version :: code :: _ =>
    if (Text.behind? "HTTP/1.".toList version).isNone then .error bad
    else match Status.ofChars? code with
      | some status => .ok status
      | none => .error bad
  | _ => .error bad

def readHeader (line : List Char) : Except MalformedCause (HeaderName × HeaderValue) :=
  match Text.cutFirst? (· == ':') line with
  | none => .error (.badHeaderLine (String.ofList line))
  | some (name, value) =>
    match HeaderName.ofText? (String.ofList (Text.trimChars name)) with
    | none => .error (.badHeaderName (String.ofList name))
    | some known =>
      match HeaderValue.ofBytes? (Utf8.encodeChars (Text.trimChars value)) with
      | none => .error (.badHeaderValue known)
      | some value => .ok (known, value)

/-- The headers of the lines up to the first empty one. -/
def readHeaders : List (List Char) → Except MalformedCause (List (HeaderName × HeaderValue))
  | [] => .ok []
  | line :: rest =>
    if line = [] then .ok []
    else match readHeader line with
      | .error e => .error e
      | .ok header => (readHeaders rest).map (header :: ·)

/-- Status and headers of the answer whose head is `head`. -/
def parseHead (head : Bytes) : Except MalformedCause (Status × Headers) :=
  match Utf8.decodeChars? head with
  | none => .error .notText
  | some text =>
    match lines text with
    | [] => .error (.badStatusLine "")
    | line :: rest =>
      match readStatus line with
      | .error e => .error e
      | .ok status => (readHeaders rest).map fun entries => (status, ⟨entries⟩)

/-! ## The answer -/

/-- The longest explanation of a refusal. -/
def maxRefusal : Nat := 64 * 1024

/-- The length that the first `Content-Length` header announces. -/
def announcedLength (headers : Headers) : Nat :=
  match (headers.first? .contentLength).bind HeaderValue.text? with
  | none => 0
  | some text => ((Text.readNumber (Text.trimChars text)).toOption).getD 0

/-- Read what follows the head of a refusal. -/
def readRefusal (headers : Headers) (stream : Stream) : Except TransportError Bytes × Stream :=
  let length := announcedLength headers
  if length = 0 then (.ok [], stream)
  else if maxRefusal < length then (.error (.malformed (.refusalTooLong length)), stream)
  else stream.take length

/-- Read the answer to a request for a connection. -/
def readReply (stream : Stream) : Except TransportError ConnectReply × Stream :=
  match readHead stream with
  | (.error e, stream) => (.error e, stream)
  | (.ok head, stream) =>
    match parseHead head with
    | .error cause => (.error (.malformed cause), stream)
    | .ok (status, headers) =>
      if status.isSuccess then (.ok ⟨status, headers, []⟩, stream)
      else match readRefusal headers stream with
        | (.error e, stream) => (.error e, stream)
        | (.ok body, stream) => (.ok ⟨status, headers, body⟩, stream)

/-- Ask the proxy for a connection to `authority`. -/
def establish (authority : String) (authorization : Option HeaderValue) (stream : Stream) :
    Except TransportError ConnectReply × Stream :=
  match stream.write (requestHead authority authorization) with
  | (.error e, stream) => (.error e, stream)
  | (.ok (), stream) => readReply stream

end Connect

end ProxyHandshake
