import ProxyHandshake.Text.Letters
import ProxyHandshake.Text.Split
import ProxyHandshake.Toml.Value

/-!
# Numbers of TOML documents

Digits may be set apart by single underscores.  Decimal numbers have no zeros in front; numbers in
another base have a prefix instead of a sign.  Numbers that do not fit into 128 bits, and those
with a fraction that are too large for a double, are refused.
-/

namespace ProxyHandshake.Toml

/-- The digits of a text in which underscores may stand between digits. -/
def digits? (isDigit : Char → Bool) : List Char → Option (List Char)
  | [] => none
  | [c] => if isDigit c then some [c] else none
  | c :: '_' :: rest => if isDigit c then (digits? isDigit rest).map (c :: ·) else none
  | c :: rest => if isDigit c then (digits? isDigit rest).map (c :: ·) else none

def hasLeadingZero : List Char → Bool
  | '0' :: _ :: _ => true
  | _ => false

/-- The digits of a decimal number without a sign. -/
def wholeDigits? (chars : List Char) : Option (List Char) :=
  if hasLeadingZero chars then none else digits? Char.isDigit chars

/-- Whether a number is negative, and what is behind its sign. -/
def signed : List Char → Bool × List Char
  | '+' :: rest => (false, rest)
  | '-' :: rest => (true, rest)
  | chars => (false, chars)

/-! ## Whole numbers -/

def inRange (n : Int) : Bool :=
  decide (-(Nat.pow 2 127 : Nat) ≤ n) && decide (n < (Nat.pow 2 128 : Nat))

def ofDigits (negative : Bool) (base : Nat) (digits : List Char) : Option Value :=
  let magnitude : Int := Text.numeral base digits
  let n := if negative then -magnitude else magnitude
  if inRange n then some (.integer n) else none

def integer? (chars : List Char) : Option Value :=
  match chars with
  | '0' :: 'x' :: rest => (digits? Text.isHexDigit rest).bind (ofDigits false 16)
  | '0' :: 'o' :: rest => (digits? (fun c => '0' ≤ c && c ≤ '7') rest).bind (ofDigits false 8)
  | '0' :: 'b' :: rest => (digits? (fun c => c == '0' || c == '1') rest).bind (ofDigits false 2)
  | _ =>
    let (negative, rest) := signed chars
    (wholeDigits? rest).bind (ofDigits negative 10)

/-! ## Numbers with a fraction -/

/-- The least number that is too large for a double. -/
def doubleLimit : Nat := Nat.pow 2 1024 - Nat.pow 2 970

/-- Whether the number that `digits` write, times ten to the `exponent`, fits into a double. -/
def fitsDouble (digits : List Char) (exponent : Int) : Bool :=
  let n := Text.numeral 10 digits
  let size : Int := (Nat.toDigits 10 n).length + exponent
  if n = 0 || size ≤ 308 then true
  else if 310 < size then false
  else if 0 ≤ exponent then n * Nat.pow 10 exponent.toNat < doubleLimit
  else n < doubleLimit * Nat.pow 10 (-exponent).toNat

/-- An exponent, behind its letter. -/
def exponent? (chars : List Char) : Option Int :=
  let (negative, rest) := signed chars
  (digits? Char.isDigit rest).map fun digits =>
    let n : Int := Text.numeral 10 digits
    if negative then -n else n

def isExponentMark (c : Char) : Bool :=
  c == 'e' || c == 'E'

/-- The digits before and behind the point. -/
def fractionDigits? (chars : List Char) : Option (List Char × List Char) :=
  match Text.cutFirst? (· == '.') chars with
  | none => (wholeDigits? chars).map fun digits => (digits, [])
  | some (whole, fraction) => do
    let whole ← wholeDigits? whole
    let fraction ← digits? Char.isDigit fraction
    some (whole, fraction)

/-- A number in decimal digits, without its sign, that fits into a double. -/
def isDouble (chars : List Char) : Bool :=
  let (mantissa, exponent) :=
    match Text.cutFirst? isExponentMark chars with
    | none => (chars, some 0)
    | some (mantissa, exponent) => (mantissa, exponent? exponent)
  match fractionDigits? mantissa, exponent with
  | some (whole, fraction), some exponent =>
    fitsDouble (whole ++ fraction) (exponent - fraction.length)
  | _, _ => false

def float? (chars : List Char) : Option Value :=
  let (_, rest) := signed chars
  let isFloat := rest.any (fun c => c == '.' || isExponentMark c) && isDouble rest
  if rest = "inf".toList || rest = "nan".toList || isFloat then
    some (.float (String.ofList chars))
  else none

end ProxyHandshake.Toml
