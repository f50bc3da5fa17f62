import ProxyHandshake.Text.Letters

/-!
# Strings of TOML documents

A string stands between double quotes, with escapes for characters that cannot stand there, or
between single quotes, where every character stands for itself.  With three quotes on either side
it may have several lines.
-/

namespace ProxyHandshake.Toml

/-- A character that may stand in a comment or a string. -/
def isPlain (c : Char) : Bool :=
  c == '\t' || (0x20 ≤ c.toNat && c.toNat != 0x7F)

/-- The character behind a backslash. -/
def escape? : Char → Option Char
  | 'b' => some '\x08'
  | 't' => some '\t'
  | 'n' => some '\n'
  | 'f' => some '\x0c'
  | 'r' => some '\r'
  | 'e' => some '\x1b'
  | '"' => some '"'
  | '\\' => some '\\'
  | _ => none

/-- The character whose code point is written in hexadecimal digits. -/
def codePoint? (digits : List Char) : Option Char :=
  let n := Text.numeral 16 digits
  if !digits.all Text.isHexDigit then none
  else if n.isValidChar then some (Char.ofNat n)
  else none

/-- Put a character in front of a string that has been read. -/
def before (c : Option Char) (read : Option (List Char × List Char)) :
    Option (List Char × List Char) :=
  match c, read with
  | some c, some (text, rest) => some (c :: text, rest)
  | _, _ => none

/-- Read to the double quote. -/
def readBasic : List Char → Option (List Char × List Char)
  | [] => none
  | '"' :: rest => some ([], rest)
  | '\\' :: 'x' :: a :: b :: rest => before (codePoint? [a, b]) (readBasic rest)
  | '\\' :: 'u' :: a :: b :: c :: d :: rest =>
    before (codePoint? [a, b, c, d]) (readBasic rest)
  | '\\' :: 'U' :: a :: b :: c :: d :: e :: f :: g :: h :: rest =>
    before (codePoint? [a, b, c, d, e, f, g, h]) (readBasic rest)
  | '\\' :: c :: rest => before (escape? c) (readBasic rest)
  | c :: rest => before (if isPlain c then some c else none) (readBasic rest)

/-- Read to the single quote. -/
def readLiteral : List Char → Option (List Char × List Char)
  | [] => none
  | '\'' :: rest => some ([], rest)
  | c :: rest => before (if isPlain c then some c else none) (readLiteral rest)

/-- What a backslash at the end of a line takes away. -/
inductive Trimming where
  | off
  /-- Blanks up to the end of the line. -/
  | line
  /-- Blanks and ends of lines. -/
  | gap
deriving DecidableEq, Repr

/-- Read to three double quotes; of four or five, the first ones belong to the string. -/
def readLongBasic : Trimming → List Char → Option (List Char × List Char)
  | _, [] => none
  | .line, '\n' :: rest => readLongBasic .gap rest
  | .line, '\r' :: '\n' :: rest => readLongBasic .gap rest
  | .line, c :: rest => if c == ' ' || c == '\t' then readLongBasic .line rest else none
  | .gap, ' ' :: rest => readLongBasic .gap rest
  | .gap, '\t' :: rest => readLongBasic .gap rest
  | .gap, '\n' :: rest => readLongBasic .gap rest
  | .gap, '\r' :: '\n' :: rest => readLongBasic .gap rest
  | _, '"' :: '"' :: '"' :: '"' :: '"' :: rest => some (['"', '"'], rest)
  | _, '"' :: '"' :: '"' :: '"' :: rest => some (['"'], rest)
  | _, '"' :: '"' :: '"' :: rest => some ([], rest)
  | _, '\n' :: rest => before (some '\n') (readLongBasic .off rest)
  | _, '\r' :: '\n' :: rest =>
    before (some '\r') (before (some '\n') (readLongBasic .off rest))
  | _, '\\' :: 'x' :: a :: b :: rest => before (codePoint? [a, b]) (readLongBasic .off rest)
  | _, '\\' :: 'u' :: a :: b :: c :: d :: rest =>
    before (codePoint? [a, b, c, d]) (readLongBasic .off rest)
  | _, '\\' :: 'U' :: a :: b :: c :: d :: e :: f :: g :: h :: rest =>
    before (codePoint? [a, b, c, d, e, f, g, h]) (readLongBasic .off rest)
  | _, '\\' :: '\n' :: rest => readLongBasic .gap rest
  | _, '\\' :: '\r' :: '\n' :: rest => readLongBasic .gap rest
  | _, '\\' :: ' ' :: rest => readLongBasic .line rest
  | _, '\\' :: '\t' :: rest => readLongBasic .line rest
  | _, '\\' :: c :: rest => before (escape? c) (readLongBasic .off rest)
  | _, c :: rest => before (if isPlain c then some c else none) (readLongBasic .off rest)

/-- Read to three single quotes; of four or five, the first ones belong to the string. -/
def readLongLiteral : List Char → Option (List Char × List Char)
  | [] => none
  | '\'' :: '\'' :: '\'' :: '\'' :: '\'' :: rest => some (['\'', '\''], rest)
  | '\'' :: '\'' :: '\'' :: '\'' :: rest => some (['\''], rest)
  | '\'' :: '\'' :: '\'' :: rest => some ([], rest)
  | '\n' :: rest => before (some '\n') (readLongLiteral rest)
  | '\r' :: '\n' :: rest => before (some '\r') (before (some '\n') (readLongLiteral rest))
  | c :: rest => before (if isPlain c then some c else none) (readLongLiteral rest)

/-- A string of several lines without the line end right behind its opening quotes. -/
def dropLineEnd : List Char → List Char
  | '\n' :: rest => rest
  | '\r' :: '\n' :: rest => rest
  | chars => chars

/-- Read a string from its opening quote on; `none` if there is no quote or no string. -/
def readString : List Char → Option (List Char × List Char)
  | '"' :: '"' :: '"' :: rest => readLongBasic .off (dropLineEnd rest)
  | '\'' :: '\'' :: '\'' :: rest => readLongLiteral (dropLineEnd rest)
  | '"' :: rest => readBasic rest
  | '\'' :: rest => readLiteral rest
  | _ => none

end ProxyHandshake.Toml
