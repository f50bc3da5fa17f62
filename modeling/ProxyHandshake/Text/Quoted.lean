import ProxyHandshake.Bytes.Utf8
import ProxyHandshake.Text.Letters
import ProxyHandshake.Unicode.Invisible

/-!
# Quoted text

Messages show a text between double quotes.  Quotes and backslashes inside are written with a
backslash, and characters that cannot be seen by name or by code point, so that two texts never
look the same.
-/

namespace ProxyHandshake.Text

/-- A character as it stands between double quotes. -/
def quoteChar (c : Char) : List Char :=
  if c = '"' then ['\\', '"']
  else if c = '\\' then ['\\', '\\']
  else if c = '\n' then ['\\', 'n']
  else if c = '\r' then ['\\', 'r']
  else if c = '\t' then ['\\', 't']
  else if c = '\x00' then ['\\', '0']
  else if Unicode.isInvisible c then
    '\\' :: 'u' :: '\x7b' :: (Nat.toDigits 16 c.toNat ++ ['\x7d'])
  else [c]

def quoteChars (chars : List Char) : List Char :=
  '"' :: (chars.flatMap quoteChar ++ ['"'])

/-- `text` between double quotes. -/
def quoted (text : String) : String :=
  String.ofList (quoteChars text.toList)

/-- A byte that is no text, as it stands between double quotes. -/
def quoteByte (b : UInt8) : List Char :=
  let digits := Nat.toDigits 16 b.toNat
  '\\' :: 'x' :: (List.replicate (2 - digits.length) '0' ++ digits.map Char.toUpper)

/-- A character or a byte of a file name; single quotes are written with a backslash too. -/
def quoteUnit : Char ⊕ UInt8 → List Char
  | .inl c => if c = '\'' then ['\\', '\''] else quoteChar c
  | .inr b => quoteByte b

/-- A file name between double quotes. -/
def quotedBytes (bytes : Bytes) : String :=
  String.ofList ('"' :: ((Utf8.units bytes).flatMap quoteUnit ++ ['"']))

/-- An optional value in a debug listing. -/
def optional (shown : Option String) : String :=
  match shown with
  | none => "None"
  | some text => "Some(" ++ text ++ ")"

end ProxyHandshake.Text
