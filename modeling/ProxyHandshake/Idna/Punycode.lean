import ProxyHandshake.Text.Split
import ProxyHandshake.Text.Letters

/-!
# Punycode

A label with characters beyond ASCII is written in ASCII: first its ASCII characters, then, behind
a hyphen, the places of the others.  Each place is a distance from the place before, counted over
all code points and positions, and written in digits of base 36 whose weights adapt to the
distances seen so far.

Decoding stops at a digit that is missing, a code point that does not exist, or a distance beyond
32 bits.
-/

namespace ProxyHandshake.Idna.Punycode

def base : Nat := 36
def tMin : Nat := 1
def tMax : Nat := 26
def skew : Nat := 38
def damp : Nat := 700
def initialBias : Nat := 72
def initialCode : Nat := 0x80
def wordLimit : Nat := Nat.pow 2 32

/-- The number of base steps that bring `delta` below the threshold, times the base, and what is
left of it. -/
def adaptSteps (delta k : Nat) : Nat × Nat :=
  if _above : (base - tMin) * tMax / 2 < delta then adaptSteps (delta / (base - tMin)) (k + base)
  else (delta, k)
termination_by delta
decreasing_by
  simp only [base, tMin, tMax] at *
  omega

/-- The bias for the next distance, after `delta` among `count` characters. -/
def adapt (delta count : Nat) (first : Bool) : Nat :=
  let halved := if first then delta / damp else delta / 2
  let (rest, k) := adaptSteps (halved + halved / count) 0
  k + (base - tMin + 1) * rest / (rest + skew)

def threshold (k bias : Nat) : Nat :=
  if k ≤ bias then tMin else if bias + tMax ≤ k then tMax else k - bias

theorem threshold_pos (k bias : Nat) : 1 ≤ threshold k bias := by
  unfold threshold
  split
  · decide
  · split <;> first | decide | omega

theorem threshold_le (k bias : Nat) : threshold k bias ≤ 26 := by
  have hMin : tMin = 1 := rfl
  have hMax : tMax = 26 := rfl
  unfold threshold
  by_cases hlow : k ≤ bias
  · rw [if_pos hlow]; omega
  · by_cases hhigh : bias + tMax ≤ k
    · rw [if_neg hlow, if_pos hhigh]; omega
    · rw [if_neg hlow, if_neg hhigh]; omega

/-! ## Writing -/

def digit (n : Nat) : Char :=
  if n < 26 then Char.ofNat ('a'.toNat + n) else Char.ofNat ('0'.toNat + (n - 26))

/-- `q` as a number with the weights that `bias` gives. -/
def encodeNumber (q k bias : Nat) : List Char :=
  if _small : q < threshold k bias then [digit q]
  else
    digit (threshold k bias + (q - threshold k bias) % (base - threshold k bias)) ::
      encodeNumber ((q - threshold k bias) / (base - threshold k bias)) (k + base) bias
termination_by q
decreasing_by
  have hpos := threshold_pos k bias
  calc (q - threshold k bias) / (base - threshold k bias)
      ≤ q - threshold k bias := Nat.div_le_self _ _
    _ < q := by omega

/-- What is written so far, and the state of the count. -/
structure Writing where
  code : Nat
  delta : Nat
  bias : Nat
  done : Nat
  written : List Char

/-- Write the places of the code point `code` in the text, one character after the other. -/
def Writing.placeAll (basic code : Nat) (w : Writing) : List Nat → Writing
  | [] => w
  | c :: rest =>
    if c < code then Writing.placeAll basic code { w with delta := w.delta + 1 } rest
    else if c = code then
      Writing.placeAll basic code
        { w with
          delta := 0
          bias := adapt w.delta (w.done + 1) (w.done == basic)
          done := w.done + 1
          written := w.written ++ encodeNumber w.delta base w.bias } rest
    else Writing.placeAll basic code w rest

/-- The smallest code point of the text that is not below `code`. -/
def nextCode (code : Nat) (text : List Nat) : Option Nat :=
  (text.filter (code ≤ ·)).min?

/-- Place the code points of the text in increasing order; `fuel` bounds their number. -/
def Writing.run (basic : Nat) (text : List Nat) : Nat → Writing → List Char
  | 0, w => w.written
  | fuel + 1, w =>
    match nextCode w.code text with
    | none => w.written
    | some code =>
      let start := { w with delta := w.delta + (code - w.code) * (w.done + 1) }
      let w' := start.placeAll basic code text
      Writing.run basic text fuel { w' with delta := w'.delta + 1, code := code + 1 }

/-- The ASCII form of a label, without its `xn--`. -/
def encode (label : List Char) : List Char :=
  let basic := label.filter Text.isAscii
  let start : Writing :=
    { code := initialCode, delta := 0, bias := initialBias, done := basic.length
      written := if basic = [] then [] else basic ++ ['-'] }
  Writing.run basic.length (label.map Char.toNat) label.length start

/-! ## Reading -/

def digitValue? (c : Char) : Option Nat :=
  if 'a' ≤ c ∧ c ≤ 'z' then some (c.toNat - 'a'.toNat)
  else if 'A' ≤ c ∧ c ≤ 'Z' then some (c.toNat - 'A'.toNat)
  else if '0' ≤ c ∧ c ≤ '9' then some (c.toNat - '0'.toNat + 26)
  else none

/-- Add the number at the front of the text, with the weights that `bias` gives, to `i`. -/
def decodeNumber (i weight k bias : Nat) : List Char → Option (Nat × List Char)
  | [] => none
  | c :: rest => do
    let d ← digitValue? c
    let sum := i + d * weight
    if wordLimit ≤ sum then none
    else if d < threshold k bias then some (sum, rest)
    else
      let weight' := weight * (base - threshold k bias)
      if wordLimit ≤ weight' then none else decodeNumber sum weight' (k + base) bias rest

def insertAt (i : Nat) (c : Char) (text : List Char) : List Char :=
  text.take i ++ c :: text.drop i

/-- A code point that is a character. -/
def charOf? (code : Nat) : Option Char :=
  if h : code.isValidChar then some (Char.ofNatAux code h) else none

theorem decodeNumber_length {i weight k bias : Nat} {text rest : List Char} {sum : Nat}
    (h : decodeNumber i weight k bias text = some (sum, rest)) : rest.length < text.length := by
  induction text generalizing i weight k with
  | nil => simp [decodeNumber] at h
  | cons c text ih =>
    rw [decodeNumber] at h
    cases hd : digitValue? c with
    | none => simp [hd] at h
    | some d =>
      simp only [hd, Option.bind_eq_bind, Option.bind_some] at h
      split at h
      · simp at h
      · split at h
        · simp only [Option.some.injEq, Prod.mk.injEq] at h
          simp [h.2]
        · split at h
          · simp at h
          · have := ih h
            simp only [List.length_cons]
            omega

/-- Insert the characters whose places `text` holds into `label`. -/
def decodeFrom (code i bias : Nat) (label : List Char) (text : List Char) : Option (List Char) :=
  if text = [] then some label
  else
    match _read : decodeNumber i 1 base bias text with
    | none => none
    | some (sum, rest) =>
      let count := label.length + 1
      match charOf? (code + sum / count) with
      | none => none
      | some c =>
        decodeFrom (code + sum / count) (sum % count + 1) (adapt (sum - i) count (i == 0))
          (insertAt (sum % count) c label) rest
termination_by text.length
decreasing_by exact decodeNumber_length _read

/-- The label whose ASCII form, without its `xn--`, is `text`.  A hyphen with nothing in front of it
is no part of such a form. -/
def decode? (text : List Char) : Option (List Char) :=
  match Text.cutLast? (· == '-') text with
  | some ([], _) => none
  | some (basic, places) =>
    if basic.all Text.isAscii then decodeFrom initialCode 0 initialBias basic places else none
  | none => decodeFrom initialCode 0 initialBias [] text

end ProxyHandshake.Idna.Punycode
