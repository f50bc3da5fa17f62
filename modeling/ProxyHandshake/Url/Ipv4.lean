import ProxyHandshake.Text.Split
import ProxyHandshake.Text.Letters

/-!
# IPv4 addresses

An address of four bytes is shown as four decimal numbers.  It may be written with fewer numbers,
the last of which then fills the bytes that are left, and each number may be decimal, octal behind
a zero, or hexadecimal behind `0x`.
-/

namespace ProxyHandshake

structure Ipv4 where
  value : UInt32
deriving DecidableEq, Repr

namespace Ipv4

def text (address : Ipv4) : String :=
  let n := address.value.toNat
  s!"{n / 16777216}.{n / 65536 % 256}.{n / 256 % 256}.{n % 256}"

/-- What a part of a dotted name is as a number. -/
inductive Part where
  | number (n : Nat)
  | tooLarge
  | notANumber
deriving DecidableEq, Repr

def isOctalDigit (c : Char) : Bool :=
  '0' ≤ c && c ≤ '7'

/-- The number that `digits` write in `base`; no digits at all write zero. -/
def partIn (base : Nat) (isDigit : Char → Bool) (digits : List Char) : Part :=
  if !digits.all isDigit then .notANumber
  else if Text.numeral base digits < Nat.pow 2 32 then .number (Text.numeral base digits)
  else .tooLarge

def readPart : List Char → Part
  | [] => .notANumber
  | '0' :: 'x' :: digits => partIn 16 Text.isHexDigit digits
  | '0' :: 'X' :: digits => partIn 16 Text.isHexDigit digits
  | '0' :: c :: digits => partIn 8 isOctalDigit (c :: digits)
  | digits => partIn 10 Char.isDigit digits

/-- The parts of a dotted name; a dot at its end is ignored. -/
def partsOf (name : List Char) : List (List Char) :=
  let parts := Text.pieces (· == '.') name
  if parts.getLast? = some [] then parts.dropLast else parts

/-- Whether a name must be an IPv4 address because its last part is a number. -/
def looksNumeric (name : List Char) : Bool :=
  match (partsOf name).getLast? with
  | none => false
  | some part => (part ≠ [] && part.all Char.isDigit) || readPart part ≠ .notANumber

/-- The numbers of all parts. -/
def numbers? : List (List Char) → Option (List Nat)
  | [] => some []
  | part :: rest =>
    match readPart part with
    | .number n => (numbers? rest).map (n :: ·)
    | _ => none

/-- The address with the given leading bytes and a last number that fills `2 ^ bits`. -/
def assemble? (bits : Nat) : List Nat → Option Nat
  | [] => none
  | [n] => if n < Nat.pow 2 bits then some n else none
  | n :: rest =>
    if n < 256 then (assemble? (bits - 8) rest).map (n * Nat.pow 2 (bits - 8) + ·) else none

def parse? (name : List Char) : Option Ipv4 := do
  let parts := partsOf name
  if 4 < parts.length then none
  else
    let numbers ← numbers? parts
    let value ← assemble? 32 numbers
    some ⟨UInt32.ofNat value⟩

end Ipv4

end ProxyHandshake
