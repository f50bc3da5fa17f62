import ProxyHandshake.Bytes.Utf8

/-!
# Base64

Three bytes are written as four symbols of six bits each.  One or two bytes at the end are written
as two or three symbols, and equals signs fill the group of four up.

Reading takes back exactly what writing produces: all groups are full, equals signs stand only at
the end, and the bits that the last symbol has too many are zero.
-/

namespace ProxyHandshake.Base64

inductive Error where
  /-- A byte that is no symbol, and where it stands. -/
  | invalidSymbol (symbol : UInt8) (offset : Nat)
  /-- A last symbol whose unused bits are not zero. -/
  | invalidLastSymbol (symbol : UInt8) (offset : Nat)
  /-- The number of equals signs does not fill the last group. -/
  | invalidPadding
  /-- A last group of one symbol, which holds no whole byte. -/
  | invalidLength (length : Nat)
deriving DecidableEq, Repr

def Error.message : Error → String
  | .invalidSymbol symbol offset => s!"Invalid symbol {symbol}, offset {offset}."
  | .invalidLastSymbol symbol offset => s!"Invalid last symbol {symbol}, offset {offset}."
  | .invalidPadding => "Invalid padding"
  | .invalidLength length => s!"Invalid input length: {length}"

/-! ## Symbols -/

def symbol (n : Nat) : Char :=
  if n < 26 then Char.ofNat (n + 65)
  else if n < 52 then Char.ofNat (n + 71)
  else if n < 62 then Char.ofNat (n - 4)
  else if n = 62 then '+'
  else '/'

def value? (b : UInt8) : Option Nat :=
  let n := b.toNat
  if 65 ≤ n ∧ n ≤ 90 then some (n - 65)
  else if 97 ≤ n ∧ n ≤ 122 then some (n - 71)
  else if 48 ≤ n ∧ n ≤ 57 then some (n + 4)
  else if n = 43 then some 62
  else if n = 47 then some 63
  else none

def padding : UInt8 := 61

/-! ## Writing -/

def encodeChars : Bytes → List Char
  | [] => []
  | [a] =>
    let n := a.toNat
    [symbol (n / 4), symbol (n % 4 * 16), '=', '=']
  | [a, b] =>
    let n := a.toNat * 256 + b.toNat
    [symbol (n / 1024), symbol (n / 16 % 64), symbol (n % 16 * 4), '=']
  | a :: b :: c :: rest =>
    let n := (a.toNat * 256 + b.toNat) * 256 + c.toNat
    symbol (n / 262144) :: symbol (n / 4096 % 64) :: symbol (n / 64 % 64) :: symbol (n % 64) ::
      encodeChars rest

def encode (bytes : Bytes) : String :=
  String.ofList (encodeChars bytes)

/-! ## Reading -/

/-- The value of the symbol `b`, which stands at `offset`. -/
def valueAt (offset : Nat) (b : UInt8) : Except Error Nat :=
  match value? b with
  | some n => .ok n
  | none => .error (.invalidSymbol b offset)

/-- The last group, up to four bytes: the values of its symbols, the last symbol itself, and the
number of equals signs behind them.  Two symbols at least come before an equals sign. -/
def readGroup (start : Nat) (values : List Nat) (last : UInt8) (pads : Nat) :
    Bytes → Except Error (List Nat × UInt8 × Nat)
  | [] => .ok (values, last, pads)
  | b :: rest =>
    if b = padding then
      if values.length < 2 then .error (.invalidSymbol b (start + values.length))
      else readGroup start values last (pads + 1) rest
    else if 0 < pads then .error (.invalidSymbol padding (start + values.length))
    else
      match valueAt (start + values.length) b with
      | .error e => .error e
      | .ok n => readGroup start (values ++ [n]) b 0 rest

/-- The bytes of the last group, which begins at `start`. -/
def decodeLast (start : Nat) (group : Bytes) : Except Error Bytes :=
  match readGroup start [] 0 0 group with
  | .error e => .error e
  | .ok (values, last, pads) =>
    if values.length < 2 then .error (.invalidLength (start + values.length))
    else if (values.length + pads) % 4 ≠ 0 then .error .invalidPadding
    else match values with
      | [i, j, k, l] =>
        let n := ((i * 64 + j) * 64 + k) * 64 + l
        .ok [UInt8.ofNat (n / 65536), UInt8.ofNat (n / 256 % 256), UInt8.ofNat (n % 256)]
      | [i, j, k] =>
        let n := (i * 64 + j) * 64 + k
        if n % 4 ≠ 0 then .error (.invalidLastSymbol last (start + 2))
        else .ok [UInt8.ofNat (n / 1024), UInt8.ofNat (n / 4 % 256)]
      | [i, j] =>
        let n := i * 64 + j
        if n % 16 ≠ 0 then .error (.invalidLastSymbol last (start + 1))
        else .ok [UInt8.ofNat (n / 16)]
      | _ => .ok []

/-- Read the groups from the one at `start` on. -/
def decodeGroups (start : Nat) : Bytes → Except Error Bytes
  | a :: b :: c :: d :: e :: rest => do
    let i ← valueAt start a
    let j ← valueAt (start + 1) b
    let k ← valueAt (start + 2) c
    let l ← valueAt (start + 3) d
    let n := ((i * 64 + j) * 64 + k) * 64 + l
    let behind ← decodeGroups (start + 4) (e :: rest)
    return UInt8.ofNat (n / 65536) :: UInt8.ofNat (n / 256 % 256) :: UInt8.ofNat (n % 256) ::
      behind
  | [] => .ok []
  | group => decodeLast start group

/-- A single byte behind the last full group that cannot be part of one: a line end, say. -/
def strayEnd? (bytes : Bytes) : Option Error :=
  match bytes.getLast? with
  | none => none
  | some b =>
    if bytes.length % 4 = 1 ∧ b ≠ padding ∧ (value? b).isNone then
      some (.invalidSymbol b (bytes.length - 1))
    else none

def decodeBytes (bytes : Bytes) : Except Error Bytes :=
  match strayEnd? bytes with
  | some e => .error e
  | none => decodeGroups 0 bytes

def decode (text : String) : Except Error Bytes :=
  decodeBytes (Utf8.encode text)

end ProxyHandshake.Base64
