import ProxyHandshake.Text.Letters

/-!
# Decimal numbers

Counts of bytes and seconds are written in decimal digits, perhaps behind a plus sign, and must fit
into 64 bits.
-/

namespace ProxyHandshake.Text

inductive NumberError where
  | empty
  | invalidDigit
  | tooLarge
deriving DecidableEq, Repr

def NumberError.message : NumberError → String
  | .empty => "cannot parse integer from empty string"
  | .invalidDigit => "invalid digit found in string"
  | .tooLarge => "number too large to fit in target type"

/-- The first number that is too large. -/
def numberLimit : Nat := Nat.pow 2 64

/-- Read the digits behind the number `n`. -/
def readDigits (n : Nat) : List Char → Except NumberError Nat
  | [] => .ok n
  | c :: rest =>
    if !c.isDigit then .error .invalidDigit
    else if numberLimit ≤ 10 * n + digitValue c then .error .tooLarge
    else readDigits (10 * n + digitValue c) rest

def readNumber : List Char → Except NumberError Nat
  | [] => .error .empty
  | ['+'] => .error .invalidDigit
  | '+' :: digits => readDigits 0 digits
  | digits => readDigits 0 digits

end ProxyHandshake.Text
