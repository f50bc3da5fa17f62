/-!
# Character tables

A property of characters is written down as a text of blank separated items, each a hexadecimal
range `LO-HI` or a single code point `LO`, in increasing order and without overlap.  An item of a
mapping adds `=T`, the image of `LO`, from which the image of a later character of the range is as
far away as the character is from `LO`; `/2` after the range leaves out every second character, and
an image of several characters is written `T1.T2.T3`.

A table of classes is written like a mapping; its numbers then hold for the whole range.

All tables are arrays sorted by the first code point of an item, so that an item is found
by halving.
-/

namespace ProxyHandshake.Unicode

/-- One range of code points and what the table says about it. -/
structure Item (β : Type) where
  first : Nat
  last : Nat
  value : β

/-- The number of items among `items[lo..hi)` and before that start no later than `code`. -/
def startedBy {β : Type} (items : Array (Item β)) (code lo hi : Nat) : Nat :=
  if _within : lo < hi then
    match items[(lo + hi) / 2]? with
    | none => lo
    | some item =>
      if item.first ≤ code then startedBy items code ((lo + hi) / 2 + 1) hi
      else startedBy items code lo ((lo + hi) / 2)
  else lo
termination_by hi - lo
decreasing_by all_goals omega

/-- The item whose range holds `code`. -/
def itemOf? {β : Type} (items : Array (Item β)) (code : Nat) : Option (Item β) :=
  match startedBy items code 0 items.size with
  | 0 => none
  | n + 1 => items[n]?.filter fun item => code ≤ item.last

/-! ## Reading a table -/

def hexValue (c : Char) : Nat :=
  if c.isDigit then c.toNat - '0'.toNat else c.toNat - 'A'.toNat + 10

def hexNumber (digits : List Char) : Nat :=
  digits.foldl (fun n c => 16 * n + hexValue c) 0

/-- The parts of `chars` between the occurrences of `mark`. -/
def parts (mark : Char) : List Char → List (List Char)
  | [] => [[]]
  | c :: rest =>
    match parts mark rest with
    | [] => []
    | part :: others => if c = mark then [] :: part :: others else (c :: part) :: others

def readRange (text : List Char) : Nat × Nat :=
  match parts '-' text with
  | [first, last] => (hexNumber first, hexNumber last)
  | _ => (hexNumber text, hexNumber text)

/-- The items of a table, which may stand on several lines. -/
def items (text : String) : List (List Char) :=
  ((parts '\n' text.toList).flatMap (parts ' ')).filter (· ≠ [])

/-! ## Properties -/

/-- A set of characters. -/
structure CharSet where
  ranges : Array (Item Unit)

def CharSet.ofText (text : String) : CharSet where
  ranges := (items text).toArray.map fun item =>
    let (first, last) := readRange item
    ⟨first, last, ()⟩

def CharSet.contains (set : CharSet) (c : Char) : Bool :=
  (itemOf? set.ranges c.toNat).isSome

/-! ## Mappings -/

/-- Where a range of characters goes. -/
structure Image where
  /-- Only characters at a multiple of `step` from the first one are mapped. -/
  step : Nat
  target : List Nat

/-- Texts for some characters. -/
structure CharMap where
  ranges : Array (Item Image)

def Item.ofMapping (item : List Char) : Item Image :=
  match parts '=' item with
  | [domain, image] =>
    let target := if image = [] then [] else (parts '.' image).map hexNumber
    match parts '/' domain with
    | [range, step] => ⟨(readRange range).1, (readRange range).2, ⟨hexNumber step, target⟩⟩
    | _ => ⟨(readRange domain).1, (readRange domain).2, ⟨1, target⟩⟩
  | _ => ⟨0, 0, ⟨1, []⟩⟩

def CharMap.ofText (text : String) : CharMap where
  ranges := (items text).toArray.map Item.ofMapping

def CharMap.image? (map : CharMap) (c : Char) : Option (List Char) := do
  let item ← itemOf? map.ranges c.toNat
  let offset := c.toNat - item.first
  if offset % item.value.step = 0 then
    some (item.value.target.map fun code => Char.ofNat (code + offset))
  else none

/-- The numbers that the table gives for the whole range of `c`, as they are written. -/
def CharMap.value? (map : CharMap) (c : Char) : Option (List Nat) :=
  (itemOf? map.ranges c.toNat).map (·.value.target)

end ProxyHandshake.Unicode
