import ProxyHandshake.Toml.Moment
import ProxyHandshake.Toml.Number
import ProxyHandshake.Toml.Quotation

/-!
# Reading TOML documents

A document has a statement on a line: the header of a table, or a dotted name with a value.  Values
between brackets and braces may go over several lines, and they may be nested, but not too deep.
-/

namespace ProxyHandshake.Toml

/-! ## Gaps -/

def isGapChar (c : Char) : Bool :=
  c == ' ' || c == '\t'

def skipBlanks (chars : List Char) : List Char :=
  chars.dropWhile isGapChar

/-- The characters behind a comment, if there is one. -/
def skipComment (chars : List Char) : List Char :=
  match chars with
  | '#' :: rest => rest.dropWhile isPlain
  | _ => chars

/-- The characters behind the end of a line on which nothing is left but a comment. -/
def skipLineEnd? (chars : List Char) : Option (List Char) :=
  match skipComment (skipBlanks chars) with
  | [] => some []
  | '\n' :: rest => some rest
  | '\r' :: '\n' :: rest => some rest
  | _ => none

/-- Skip blanks, ends of lines and comments. -/
def skipGap (inComment : Bool) : List Char → List Char
  | [] => []
  | '\n' :: rest => skipGap false rest
  | '\r' :: '\n' :: rest => skipGap false rest
  | c :: rest =>
    if inComment then if isPlain c then skipGap true rest else c :: rest
    else if isGapChar c then skipGap false rest
    else if c == '#' then skipGap true rest
    else c :: rest

/-! ## Names -/

def isBareChar (c : Char) : Bool :=
  c.isAlphanum || c == '_' || c == '-'

def isLongQuote : List Char → Bool
  | '"' :: '"' :: '"' :: _ => true
  | '\'' :: '\'' :: '\'' :: _ => true
  | _ => false

/-- Read a name between quotes or a bare one. -/
def readName (chars : List Char) : Option (String × List Char) :=
  let (bare, rest) := chars.span isBareChar
  if !bare.isEmpty then some (String.ofList bare, rest)
  else if isLongQuote chars then none
  else (readString chars).map fun (text, rest) => (String.ofList text, rest)

/-- Read names with points between them, at most `fuel + 1` of them, with blanks around. -/
def readNames : Nat → List Char → Option (List String × List Char)
  | fuel, chars =>
    match readName (skipBlanks chars) with
    | none => none
    | some (name, rest) =>
      match skipBlanks rest, fuel with
      | '.' :: rest, fuel + 1 =>
        (readNames fuel rest).map fun (names, rest) => (name :: names, rest)
      | rest, _ => some ([name], rest)

/-- Read a dotted name. -/
def readPath (chars : List Char) : Option (List String × List Char) :=
  readNames chars.length chars

/-! ## Values -/

/-- A character of a number, a date or a truth value. -/
def isScalarChar (c : Char) : Bool :=
  c.isAlphanum || c == '_' || c == '+' || c == '-' || c == '.' || c == ':'

def scalar? (chars : List Char) : Option Value :=
  if chars = "true".toList then some (.boolean true)
  else if chars = "false".toList then some (.boolean false)
  else ((integer? chars).or (float? chars)).or (moment? chars)

/-- Read a number, a date or a truth value; a date and its time may have a blank between them. -/
def readScalar (chars : List Char) : Option (Value × List Char) :=
  let (word, rest) := chars.span isScalarChar
  let (word, rest) :=
    match rest with
    | ' ' :: c :: others =>
      if isDate word && c.isDigit then
        let (time, rest) := (c :: others).span isScalarChar
        (word ++ ' ' :: time, rest)
      else (word, rest)
    | _ => (word, rest)
  (scalar? word).map fun value => (value, rest)

abbrev ValueReader := List Char → Option (Value × List Char)

/-- Read the items of an array behind its opening bracket. -/
def readItems (readValue : ValueReader) :
    Nat → List Char → Option (List Value × List Char)
  | 0, _ => none
  | fuel + 1, chars =>
    match skipGap false chars with
    | ']' :: rest => some ([], rest)
    | rest =>
      match readValue rest with
      | none => none
      | some (value, rest) =>
        match skipGap false rest with
        | ']' :: rest => some ([value], rest)
        | ',' :: rest =>
          (readItems readValue fuel rest).map fun (values, rest) => (value :: values, rest)
        | _ => none

/-- Put a value under its dotted name. -/
def assignPath (path : List String) (value : Value) (table : Table) : Option Table :=
  match path.getLast? with
  | none => none
  | some name => table.assign name value path.dropLast

/-- Read a dotted name, an equals sign and what `readValue` reads. -/
def readEntry (readValue : ValueReader) (chars : List Char) :
    Option ((List String × Value) × List Char) :=
  match readPath chars with
  | some (path, '=' :: rest) =>
    (readValue (skipBlanks rest)).map fun (value, rest) => ((path, value), rest)
  | _ => none

/-- Read the entries of a table behind its opening brace. -/
def readFields (readValue : ValueReader) :
    Nat → Table → List Char → Option (Table × List Char)
  | 0, _, _ => none
  | fuel + 1, table, chars =>
    match skipGap false chars with
    | '\x7d' :: rest => some (table, rest)
    | rest =>
      match readEntry readValue rest with
      | none => none
      | some ((path, value), rest) =>
        match assignPath path value table with
        | none => none
        | some table =>
          match skipGap false rest with
          | '\x7d' :: rest => some (table, rest)
          | ',' :: rest => readFields readValue fuel table rest
          | _ => none

/-- Read a value in which brackets and braces are nested at most `depth` deep. -/
def readValue : Nat → ValueReader
  | depth, '[' :: rest =>
    match depth with
    | 0 => none
    | depth + 1 =>
      (readItems (readValue depth) (rest.length + 1) rest).map fun (items, rest) =>
        (.array items, rest)
  | depth, '\x7b' :: rest =>
    match depth with
    | 0 => none
    | depth + 1 =>
      (readFields (readValue depth) (rest.length + 1) [] rest).map fun (entries, rest) =>
        (.table .braces entries, rest)
  | _, '"' :: rest =>
    (readString ('"' :: rest)).map fun (text, rest) => (.string (String.ofList text), rest)
  | _, '\'' :: rest =>
    (readString ('\'' :: rest)).map fun (text, rest) => (.string (String.ofList text), rest)
  | _, chars => readScalar chars

/-- The deepest nesting of brackets and braces. -/
def maxDepth : Nat := 80

/-! ## Statements -/

inductive Statement where
  | table (path : List String)
  /-- One more table of an array. -/
  | item (path : List String)
  | entry (path : List String) (value : Value)

/-- Read the statement on a line that is not blank. -/
def readStatement (chars : List Char) : Option (Statement × List Char) :=
  match chars with
  | '[' :: '[' :: rest =>
    match readPath rest with
    | some (path, ']' :: ']' :: rest) => some (.item path, rest)
    | _ => none
  | '[' :: rest =>
    match readPath rest with
    | some (path, ']' :: rest) => some (.table path, rest)
    | _ => none
  | _ =>
    (readEntry (readValue maxDepth) chars).map fun ((path, value), rest) =>
      (.entry path value, rest)

/-- Read statements on at most `fuel` lines. -/
def readStatements : Nat → List Char → Option (List Statement)
  | _, [] => some []
  | 0, _ :: _ => none
  | fuel + 1, chars =>
    match skipLineEnd? chars with
    | some rest => readStatements fuel rest
    | none =>
      match readStatement (skipBlanks chars) with
      | none => none
      | some (statement, rest) =>
        match skipLineEnd? rest with
        | none => none
        | some rest => (readStatements fuel rest).map (statement :: ·)

/-! ## Documents -/

/-- A document that is being read. -/
structure Draft where
  root : Table
  /-- The way to the table to which entries belong. -/
  place : List String

namespace Draft

/-- Change the table to which a header leads. -/
def change (draft : Draft) (path : List String) (change : String → Table → Option Table) :
    Option Draft :=
  match path.getLast? with
  | none => none
  | some name => (draft.root.within (change name) path.dropLast).map fun root => ⟨root, path⟩

def add (draft : Draft) : Statement → Option Draft
  | .table path => draft.change path Table.openTable
  | .item path => draft.change path Table.openItem
  | .entry path value =>
    (draft.root.within (assignPath path value) draft.place).map fun root =>
      { draft with root := root }

end Draft

def byteOrderMark : Char := '\ufeff'

/-- The characters of a document behind the mark that it may begin with. -/
def dropMark (chars : List Char) : List Char :=
  if chars.head? = some byteOrderMark then chars.tail else chars

/-- The table that a document describes. -/
def read (document : String) : Option Table :=
  let chars := dropMark document.toList
  ((readStatements (chars.length + 1) chars).bind fun statements =>
    statements.foldlM Draft.add ⟨[], []⟩).map Draft.root

end ProxyHandshake.Toml
