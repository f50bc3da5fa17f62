import ProxyHandshake.Text.Split
import ProxyHandshake.Text.Letters

/-!
# IPv6 addresses

An address is eight pieces of sixteen bits, written in hexadecimal digits with colons between them.
Two colons in a row stand for one or more pieces that are zero, and the last two pieces may be
written as an IPv4 address.

Two texts of an address are in use.  Both write the longest run of zero pieces as two colons; the
one that names a host to the authentication service also writes the last two pieces of an address
that maps an IPv4 address in the dotted form.
-/

namespace ProxyHandshake

structure Ipv6 where
  pieces : List UInt16
  length_pieces : pieces.length = 8
deriving DecidableEq, Repr

namespace Ipv6

/-! ## Reading -/

def readPiece? (digits : List Char) : Option UInt16 :=
  if digits ≠ [] ∧ digits.length ≤ 4 ∧ digits.all Text.isHexDigit then
    some (UInt16.ofNat (Text.numeral 16 digits))
  else none

/-- A number of the dotted form: up to 255, without zeros in front. -/
def readOctet? (digits : List Char) : Option Nat :=
  if digits ≠ [] ∧ digits.length ≤ 3 ∧ digits.all Char.isDigit ∧
      (digits.head? ≠ some '0' ∨ digits = ['0']) ∧ Text.numeral 10 digits < 256 then
    some (Text.numeral 10 digits)
  else none

/-- The two pieces that the dotted form writes. -/
def readDotted? (text : List Char) : Option (List UInt16) :=
  match (Text.pieces (· == '.') text).map readOctet? with
  | [some a, some b, some c, some d] =>
    some [UInt16.ofNat (a * 256 + b), UInt16.ofNat (c * 256 + d)]
  | _ => none

/-- The pieces of groups between colons; the last group may be dotted when `dotted` says so. -/
def readGroups? (dotted : Bool) : List (List Char) → Option (List UInt16)
  | [] => some []
  | [group] =>
    match readPiece? group with
    | some piece => some [piece]
    | none => if dotted then readDotted? group else none
  | group :: rest => do
    let piece ← readPiece? group
    let others ← readGroups? dotted rest
    some (piece :: others)

def readRun? (dotted : Bool) (text : List Char) : Option (List UInt16) :=
  if text = [] then some [] else readGroups? dotted (Text.pieces (· == ':') text)

/-- What is before and behind the first two colons in a row. -/
def cutDouble? : List Char → Option (List Char × List Char)
  | ':' :: ':' :: rest => some ([], rest)
  | c :: rest => (cutDouble? rest).map fun (before, behind) => (c :: before, behind)
  | [] => none

def ofPieces? (pieces : List UInt16) : Option Ipv6 :=
  if h : pieces.length = 8 then some ⟨pieces, h⟩ else none

def parse? (text : List Char) : Option Ipv6 :=
  match cutDouble? text with
  | none => (readRun? true text).bind ofPieces?
  | some (before, behind) => do
    let front ← readRun? false before
    let back ← readRun? true behind
    if 8 ≤ front.length + back.length then none
    else ofPieces? (front ++ List.replicate (8 - (front.length + back.length)) 0 ++ back)

/-! ## Writing -/

def zeroRun : List UInt16 → Nat
  | [] => 0
  | n :: rest => if n = 0 then zeroRun rest + 1 else 0

/-- Where the longest run of zero pieces starts and how long it is, `start` being the place of the
first piece; the first of several runs of the same length. -/
def longestRun (start : Nat) : List UInt16 → Nat × Nat
  | [] => (0, 0)
  | n :: rest =>
    let here := zeroRun (n :: rest)
    let later := longestRun (start + 1) rest
    if later.2 ≤ here then (start, here) else later

def pieceText (n : UInt16) : List Char :=
  Nat.toDigits 16 n.toNat

def groupsText (pieces : List UInt16) : List Char :=
  Text.joinPieces ':' (pieces.map pieceText)

/-- The text without brackets. -/
def chars (address : Ipv6) : List Char :=
  let (start, length) := longestRun 0 address.pieces
  if 2 ≤ length then
    groupsText (address.pieces.take start) ++ [':', ':'] ++
      groupsText (address.pieces.drop (start + length))
  else groupsText address.pieces

def text (address : Ipv6) : String :=
  String.ofList address.chars

/-- The text in which an address that maps an IPv4 address is dotted. -/
def mixedText (address : Ipv6) : String :=
  match address.pieces with
  | [0, 0, 0, 0, 0, 0xFFFF, high, low] =>
    let a := high.toNat
    let b := low.toNat
    s!"::ffff:{a / 256}.{a % 256}.{b / 256}.{b % 256}"
  | _ => address.text

end Ipv6

end ProxyHandshake
