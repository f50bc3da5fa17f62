import ProxyHandshake.Bytes.Utf8
import ProxyHandshake.Text.Letters

/-!
# Percent encoding

A URL is written in ASCII.  A character that may not stand for itself where it occurs is written as
its UTF-8 bytes, each as a percent sign and two hexadecimal digits.  Which ASCII characters may not
stand for themselves depends on the part of the URL; control characters and characters beyond ASCII
never may.
-/

namespace ProxyHandshake.Percent

def hexDigit (n : Nat) : Char :=
  if n < 10 then Char.ofNat (n + 48) else Char.ofNat (n + 55)

def encodeByte (b : UInt8) : List Char :=
  ['%', hexDigit (b.toNat / 16), hexDigit (b.toNat % 16)]

def isControl (c : Char) : Bool :=
  c.toNat < 0x20 || c.toNat == 0x7F

/-- `c` in a part of a URL where the characters of `special` may not stand for themselves. -/
def encodeChar (special : List Char) (c : Char) : List Char :=
  if isControl c || !Text.isAscii c || special.contains c then
    (String.utf8EncodeChar c).flatMap encodeByte
  else [c]

def encodeChars (special : List Char) (chars : List Char) : List Char :=
  chars.flatMap (encodeChar special)

def encode (special : List Char) (chars : List Char) : String :=
  String.ofList (encodeChars special chars)

/-! ## The parts of a URL -/

def fragmentSet : List Char := [' ', '"', '<', '>', '\x60']

def querySet : List Char := [' ', '"', '#', '<', '>']

/-- In the query of a web address an apostrophe is encoded too. -/
def webQuerySet : List Char := '\'' :: querySet

def pathSet : List Char := fragmentSet ++ ['#', '?', '\x7b', '\x7d']

def userSet : List Char := pathSet ++ ['/', ':', ';', '=', '@', '[', '\\', ']', '^', '|']

/-! ## Decoding -/

def isHexByte (b : UInt8) : Bool :=
  Text.isHexDigit (Char.ofNat b.toNat)

def hexByte (high low : UInt8) : UInt8 :=
  UInt8.ofNat
    (Text.digitValue (Char.ofNat high.toNat) * 16 + Text.digitValue (Char.ofNat low.toNat))

/-- The bytes with every encoded byte decoded; a percent sign without two digits stays. -/
def decode : Bytes → Bytes
  | 0x25 :: a :: b :: rest =>
    if isHexByte a && isHexByte b then hexByte a b :: decode rest
    else 0x25 :: decode (a :: b :: rest)
  | a :: rest => a :: decode rest
  | [] => []

end ProxyHandshake.Percent
