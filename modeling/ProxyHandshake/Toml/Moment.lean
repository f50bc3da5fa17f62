import ProxyHandshake.Text.Letters
import ProxyHandshake.Toml.Value

/-!
# Dates and times of TOML documents

A date, a time of day, or a date with a time and perhaps its distance from universal time.  Seconds
may be left out, and the sixtieth second of a minute can be followed by one more.
-/

namespace ProxyHandshake.Toml

/-- The number of two digits, if they are digits. -/
def pair? (a b : Char) : Option Nat :=
  if a.isDigit && b.isDigit then some (Text.numeral 10 [a, b]) else none

def isLeapYear (year : Nat) : Bool :=
  year % 4 == 0 && (year % 100 != 0 || year % 400 == 0)

def daysInMonth (year month : Nat) : Nat :=
  if month == 2 then if isLeapYear year then 29 else 28
  else if month == 4 || month == 6 || month == 9 || month == 11 then 30
  else 31

def isDate : List Char → Bool
  | [a, b, c, d, '-', e, f, '-', g, h] =>
    match pair? a b, pair? c d, pair? e f, pair? g h with
    | some century, some year, some month, some day =>
      1 ≤ month && month ≤ 12 && 1 ≤ day && day ≤ daysInMonth (100 * century + year) month
    | _, _, _, _ => false
  | _ => false

/-- Seconds and their fraction, behind the colon. -/
def isSecond : List Char → Bool
  | a :: b :: rest =>
    (pair? a b).any (· ≤ 60) &&
      (match rest with
        | [] => true
        | '.' :: digits => !digits.isEmpty && digits.all Char.isDigit
        | _ => false)
  | _ => false

def isTime : List Char → Bool
  | a :: b :: ':' :: c :: d :: rest =>
    (pair? a b).any (· < 24) && (pair? c d).any (· < 60) &&
      (match rest with
        | [] => true
        | ':' :: seconds => isSecond seconds
        | _ => false)
  | _ => false

/-- The distance from universal time, at most a day. -/
def isOffset : List Char → Bool
  | ['Z'] | ['z'] => true
  | [sign, a, b, ':', c, d] =>
    (sign == '+' || sign == '-') &&
      (match pair? a b, pair? c d with
        | some hours, some minutes => minutes < 60 && 60 * hours + minutes ≤ 1440
        | _, _ => false)
  | _ => false

/-- A time of day that may have an offset. -/
def isTimeWithOffset (chars : List Char) : Bool :=
  let (time, offset) := chars.span fun c => c.isDigit || c == ':' || c == '.'
  isTime time && (offset.isEmpty || isOffset offset)

/-- How many characters a date has. -/
def dateLength : Nat := 10

def isMoment (chars : List Char) : Bool :=
  isTime chars || isDate chars ||
    isDate (chars.take dateLength) &&
      (match chars.drop dateLength with
        | mark :: time => (mark == 'T' || mark == 't' || mark == ' ') && isTimeWithOffset time
        | [] => false)

def moment? (chars : List Char) : Option Value :=
  if isMoment chars then some (.moment (String.ofList chars)) else none

end ProxyHandshake.Toml
