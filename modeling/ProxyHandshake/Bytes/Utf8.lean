/-!
# Text as bytes

A text travels as the bytes of its UTF-8 form.  Reading goes from character to character: what
stands at the front of a list of bytes is either a whole character or a stretch of bytes that
begins none.  Strict reading refuses the second kind, lenient reading shows one replacement
character for each such stretch.
-/

namespace ProxyHandshake

/-- A message body, a header value, a file or the name of one. -/
abbrev Bytes := List UInt8

namespace Utf8

def encodeChars (chars : List Char) : Bytes :=
  chars.flatMap String.utf8EncodeChar

def encode (text : String) : Bytes :=
  encodeChars text.toList

/-- For a byte that begins a character of several bytes: how many follow, the range of the first
of them, and the bits that the byte itself holds.  The ranges leave out surrogates, characters
that have a shorter form, and what is beyond the last code point. -/
def leadOf? (b : UInt8) : Option (Nat × UInt8 × UInt8 × Nat) :=
  if 0xC2 ≤ b ∧ b ≤ 0xDF then some (1, 0x80, 0xBF, b.toNat - 0xC0)
  else if b = 0xE0 then some (2, 0xA0, 0xBF, 0)
  else if b = 0xED then some (2, 0x80, 0x9F, 0xD)
  else if 0xE1 ≤ b ∧ b ≤ 0xEF then some (2, 0x80, 0xBF, b.toNat - 0xE0)
  else if b = 0xF0 then some (3, 0x90, 0xBF, 0)
  else if b = 0xF4 then some (3, 0x80, 0x8F, 4)
  else if 0xF1 ≤ b ∧ b ≤ 0xF3 then some (3, 0x80, 0xBF, b.toNat - 0xF0)
  else none

/-- Read `count` more bytes of a character whose bits so far are `bits`; the next one must lie
between `low` and `high`. -/
def readTail (low high : UInt8) : Nat → Nat → Bytes → Option Char × Bytes
  | 0, bits, rest => (some (Char.ofNat bits), rest)
  | _ + 1, _, [] => (none, [])
  | count + 1, bits, b :: rest =>
    if low ≤ b ∧ b ≤ high then
      readTail 0x80 0xBF count (bits * 64 + (b.toNat - 0x80)) rest
    else (none, b :: rest)

/-- The character that starts with `b`, if the bytes are one, and what is behind it. -/
def readChar (b : UInt8) (rest : Bytes) : Option Char × Bytes :=
  if b < 0x80 then (some (Char.ofNat b.toNat), rest)
  else match leadOf? b with
    | none => (none, rest)
    | some (count, low, high, bits) => readTail low high count bits rest

theorem length_readTail (low high : UInt8) (count bits : Nat) (bytes : Bytes) :
    (readTail low high count bits bytes).2.length ≤ bytes.length := by
  induction count generalizing low high bits bytes with
  | zero => simp [readTail]
  | succ count ih =>
    cases bytes with
    | nil => simp [readTail]
    | cons b rest =>
      rw [readTail]
      split
      · exact Nat.le_succ_of_le (ih ..)
      · exact Nat.le_refl _

theorem length_readChar (b : UInt8) (rest : Bytes) :
    (readChar b rest).2.length ≤ rest.length := by
  unfold readChar
  split
  · exact Nat.le_refl _
  · split
    · exact Nat.le_refl _
    · exact length_readTail ..

/-- The characters of a text, with a gap for each stretch of bytes that is none. -/
def read : Bytes → List (Option Char)
  | [] => []
  | b :: rest => (readChar b rest).1 :: read (readChar b rest).2
termination_by bytes => bytes.length
decreasing_by
  have := length_readChar b rest
  simp only [List.length_cons]
  omega

/-- The characters of a text, and the bytes between them that are none. -/
def units : Bytes → List (Char ⊕ UInt8)
  | [] => []
  | b :: rest =>
    let (c, behind) := readChar b rest
    match c with
    | some c => .inl c :: units (readChar b rest).2
    | none =>
      ((b :: rest).take (rest.length + 1 - behind.length)).map .inr ++
        units (readChar b rest).2
termination_by bytes => bytes.length
decreasing_by
  all_goals
    have := length_readChar b rest
    simp only [List.length_cons]
    omega

/-- The members of a list without gaps. -/
def whole? {α : Type} : List (Option α) → Option (List α)
  | [] => some []
  | none :: _ => none
  | some a :: rest => (whole? rest).map (a :: ·)

def decodeChars? (bytes : Bytes) : Option (List Char) :=
  whole? (read bytes)

/-- The text with the UTF-8 form `bytes`. -/
def decode? (bytes : Bytes) : Option String :=
  (decodeChars? bytes).map String.ofList

/-- What is shown for bytes that are no text. -/
def replacement : Char := '\uFFFD'

/-- The text that is shown for `bytes`. -/
def decodeLossy (bytes : Bytes) : String :=
  String.ofList ((read bytes).map (·.getD replacement))

end Utf8

end ProxyHandshake
