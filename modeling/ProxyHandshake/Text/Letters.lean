/-!
# Letters of ASCII

Names of headers, schemes and hosts are compared without regard to the case of the letters `a` to
`z`.  Other letters differ from each other whatever their case.
-/

namespace ProxyHandshake.Text

def lowerChars (chars : List Char) : List Char :=
  chars.map Char.toLower

def lower (text : String) : String :=
  String.ofList (lowerChars text.toList)

def capitals (text : String) : String :=
  String.ofList (text.toList.map Char.toUpper)

/-- Equality without regard to the case of ASCII letters. -/
def sameLetters (a b : String) : Bool :=
  lowerChars a.toList == lowerChars b.toList

def isAscii (c : Char) : Bool :=
  c.toNat < 0x80

def isHexDigit (c : Char) : Bool :=
  c.isDigit || ('a' ≤ c && c ≤ 'f') || ('A' ≤ c && c ≤ 'F')

/-- The value of a digit, of a letter of a larger base, of a hexadecimal digit. -/
def digitValue (c : Char) : Nat :=
  if c.isDigit then c.toNat - '0'.toNat
  else if c.isUpper then c.toNat - 'A'.toNat + 10
  else c.toNat - 'a'.toNat + 10

/-- The number that `digits` write in `base`. -/
def numeral (base : Nat) (digits : List Char) : Nat :=
  digits.foldl (fun n c => base * n + digitValue c) 0

/-- The digits of a number in a base up to sixteen, in small letters. -/
def digitsOf (base n : Nat) : String :=
  String.ofList (Nat.toDigits base n)

end ProxyHandshake.Text
