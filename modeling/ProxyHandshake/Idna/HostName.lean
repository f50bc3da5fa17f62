import ProxyHandshake.Bytes.Utf8
import ProxyHandshake.Idna.Classes
import ProxyHandshake.Idna.Mapping
import ProxyHandshake.Idna.Punycode
import ProxyHandshake.Text.Letters
import ProxyHandshake.Text.Split
import ProxyHandshake.Unicode.Normal

/-!
# Host names in ASCII

A host name may be written in any script.  Its characters are mapped, the result is composed and
cut into labels at the full stops, and each label with characters beyond ASCII is written in
Punycode behind `xn--`.  A label that comes with `xn--` is decoded first, and both kinds have to
obey the same rules: no mark in front, joiners only where they make a difference, and a direction
of writing that shows the characters in their order.
-/

namespace ProxyHandshake.Idna

/-- ASCII characters that no host name may hold. -/
def isForbidden (c : Char) : Bool :=
  c.toNat ≤ 0x20 || c.toNat == 0x7F || "%#/:<>?@[\\]^|".toList.contains c

/-! ## Joiners -/

/-- The class of the marks that suppress the vowel of a consonant. -/
def viramaClass : Nat := 9

def isVirama (c : Char) : Bool :=
  Unicode.combiningClass c == viramaClass

def joinsForward (c : Char) : Bool :=
  leftJoiningTable.contains c || dualJoiningTable.contains c

def joinsBackward (c : Char) : Bool :=
  rightJoiningTable.contains c || dualJoiningTable.contains c

/-- Whether the first character that is not transparent satisfies `p`. -/
def firstJoining (p : Char → Bool) (chars : List Char) : Bool :=
  match chars.dropWhile transparentTable.contains with
  | [] => false
  | c :: _ => p c

/-- Every joiner of the label follows a virama, and one that separates may also stand between two
letters that would join.  `before` holds the characters in front, the last one first. -/
def joinersFit (before : List Char) : List Char → Bool
  | [] => true
  | c :: rest =>
    (if c == '\u200C' then
      (before.head?.any isVirama) ||
        (firstJoining joinsForward before && firstJoining joinsBackward rest)
    else if c == '\u200D' then before.head?.any isVirama
    else true) && joinersFit (c :: before) rest

/-! ## Direction -/

def isRightToLeft (c : Char) : Bool :=
  rightToLeftTable.contains c || arabicLetterTable.contains c

/-- Digits and letters of right-to-left scripts. -/
def turnsLabel (c : Char) : Bool :=
  isRightToLeft c || arabicNumberTable.contains c

def isNeutral (c : Char) : Bool :=
  europeanNumberTable.contains c || numberSignTable.contains c ||
    numberSeparatorTable.contains c || numberTerminatorTable.contains c ||
    neutralTable.contains c || boundaryTable.contains c || nonspacingMarkTable.contains c

/-- A letter of a left-to-right script: what is in no other class. -/
def isLeftToRight (c : Char) : Bool :=
  !isNeutral c && !turnsLabel c

/-- The label without the marks at its end. -/
def withoutMarks (label : List Char) : List Char :=
  (label.reverse.dropWhile nonspacingMarkTable.contains).reverse

/-- The characters of a label stand in the order in which they are shown. -/
def directionFits (label : List Char) : Bool :=
  match label, (withoutMarks label).getLast? with
  | c :: _, some last =>
    if isRightToLeft c then
      label.all (fun d => turnsLabel d || isNeutral d) &&
        (turnsLabel last || europeanNumberTable.contains last) &&
        !(label.any europeanNumberTable.contains && label.any arabicNumberTable.contains)
    else if isLeftToRight c then
      label.all (fun d => isLeftToRight d || isNeutral d) &&
        (isLeftToRight last || europeanNumberTable.contains last)
    else false
  | _, _ => label.isEmpty

/-! ## Labels -/

/-- The rules for a label, apart from its direction. -/
def labelFits (label : List Char) : Bool :=
  !(label.head?.any markTable.contains) && joinersFit [] label &&
    label.all fun c => isValid c && !(Text.isAscii c && isForbidden c)

/-- What a label stands for, if it obeys the rules. -/
def readLabel? (label : List Char) : Option (List Char) :=
  match label with
  | 'x' :: 'n' :: '-' :: '-' :: places => do
    let decoded ← Punycode.decode? places
    if decoded.all Text.isAscii || decide (Unicode.normalForm decoded ≠ decoded) ||
        !labelFits decoded || (Text.behind? ['x', 'n', '-', '-'] decoded).isSome then none
    else some decoded
  | _ => if labelFits label then some label else none

/-- The ASCII form of a label. -/
def asciiLabel (label : List Char) : List Char :=
  if label.all Text.isAscii then label
  else 'x' :: 'n' :: '-' :: '-' :: Punycode.encode label

/-- The characters of a name after mapping, if all of them may occur. -/
def mapChars? : List Char → Option (List Char)
  | [] => some []
  | c :: rest => do
    let mapped ← mapChar? c
    let others ← mapChars? rest
    some (mapped ++ others)

/-- Whether a label of an ASCII name needs decoding. -/
def isEncoded (label : List Char) : Bool :=
  (Text.behind? ['x', 'n', '-', '-'] label).isSome

/-- The ASCII form of the host name `name`. -/
def toAscii? (name : List Char) : Option (List Char) :=
  let plain := Text.lowerChars name
  if plain.all Text.isAscii && !((Text.pieces (· == '.') plain).any isEncoded) then
    if plain.any isForbidden then none else some plain
  else do
    let mapped ← mapChars? name
    let labels ← (Text.pieces (· == '.') (Unicode.normalForm mapped)).mapM readLabel?
    if labels.any (·.any turnsLabel) && !labels.all directionFits then none
    else some (Text.joinPieces '.' (labels.map asciiLabel))

end ProxyHandshake.Idna
