import ProxyHandshake.Unicode.Normal.Table

/-!
# Composed normal form

A letter with marks can be written as one character or as several, and marks of different classes
in any order.  The composed normal form picks one spelling: characters are taken apart, the marks
behind each letter are put into the order of their classes, and what can be put together is put
together again.  Hangul syllables are taken apart and put together by arithmetic.
-/

namespace ProxyHandshake.Unicode

def combiningClass (c : Char) : Nat :=
  if c.toNat < 0x300 then 0
  else match combiningClassTable.value? c with
    | some [k] => k
    | _ => 0

/-! ## Hangul -/

def hangulBase : Nat := 0xAC00
def leadBase : Nat := 0x1100
def vowelBase : Nat := 0x1161
def tailBase : Nat := 0x11A7
def leadCount : Nat := 19
def vowelCount : Nat := 21
def tailCount : Nat := 28

/-- The two or three letters of a Hangul syllable. -/
def hangulLetters? (c : Char) : Option (List Char) :=
  if hangulBase ≤ c.toNat ∧ c.toNat < hangulBase + leadCount * vowelCount * tailCount then
    let index := c.toNat - hangulBase
    let lead := Char.ofNat (leadBase + index / (vowelCount * tailCount))
    let vowel := Char.ofNat (vowelBase + index % (vowelCount * tailCount) / tailCount)
    if index % tailCount = 0 then some [lead, vowel]
    else some [lead, vowel, Char.ofNat (tailBase + index % tailCount)]
  else none

/-- The syllable of a first letter and a vowel, or of an open syllable and a last letter. -/
def hangulSyllable? (c d : Char) : Option Char :=
  if leadBase ≤ c.toNat ∧ c.toNat < leadBase + leadCount ∧
      vowelBase ≤ d.toNat ∧ d.toNat < vowelBase + vowelCount then
    some (Char.ofNat (hangulBase +
      ((c.toNat - leadBase) * vowelCount + (d.toNat - vowelBase)) * tailCount))
  else if hangulBase ≤ c.toNat ∧ c.toNat < hangulBase + leadCount * vowelCount * tailCount ∧
      (c.toNat - hangulBase) % tailCount = 0 ∧
      tailBase < d.toNat ∧ d.toNat < tailBase + tailCount then
    some (Char.ofNat (c.toNat + (d.toNat - tailBase)))
  else none

/-! ## Taking apart -/

def decomposeChar (c : Char) : List Char :=
  if c.toNat < 0xC0 then [c]
  else match hangulLetters? c with
    | some letters => letters
    | none => (decompositionTable.image? c).getD [c]

/-- Put `c` in front of `rest`, behind the marks there of a smaller class when `c` is a mark. -/
def insertMark (c : Char) : List Char → List Char
  | [] => [c]
  | d :: rest =>
    if combiningClass d ≠ 0 ∧ combiningClass d < combiningClass c then d :: insertMark c rest
    else c :: d :: rest

/-- The marks behind each letter in the order of their classes. -/
def orderMarks : List Char → List Char
  | [] => []
  | c :: rest => insertMark c (orderMarks rest)

/-! ## Putting together -/

def compositeIn (second : Nat) : List Nat → Option Char
  | d :: c :: rest => if d = second then some (Char.ofNat c) else compositeIn second rest
  | _ => none

def composite? (c d : Char) : Option Char :=
  match hangulSyllable? c d with
  | some syllable => some syllable
  | none => (compositionTable.value? c).bind (compositeIn d.toNat)

/-- Put the marks that follow together with the letter `base`.  The marks `kept` so far stay
apart; the last of them has class `last`, and it hides the marks of its class behind it. -/
def composeOnto (base : Char) (kept : List Char) (last : Nat) : List Char → List Char
  | [] => base :: kept
  | d :: rest =>
    let visible := kept.isEmpty || last < combiningClass d
    match (if visible then composite? base d else none) with
    | some c => composeOnto c kept last rest
    | none =>
      if combiningClass d = 0 then base :: kept ++ composeOnto d [] 0 rest
      else composeOnto base (kept ++ [d]) (combiningClass d) rest

def compose : List Char → List Char
  | [] => []
  | c :: rest =>
    if combiningClass c = 0 then composeOnto c [] 0 rest else c :: compose rest

/-- The composed normal form of a text. -/
def normalForm (chars : List Char) : List Char :=
  if chars.all (·.toNat < 0xC0) then chars
  else compose (orderMarks (chars.flatMap decomposeChar))

end ProxyHandshake.Unicode
