/-!
# Values of TOML documents

A document is a table: names with values, which may be tables again.  How a table came into the
document decides whether more may be put into it later on: one between braces is closed, one of
dotted names grows by dotted names, one that only stands above a header may still get a header of
its own, and a header may stand only once, except that of an array of tables, which adds a table
each time.
-/

namespace ProxyHandshake.Toml

/-- How a table came into the document. -/
inductive TableOrigin where
  | header
  /-- It is above a table that has a header. -/
  | above
  | dotted
  | braces
deriving DecidableEq, Repr

/-- Numbers with a fraction, dates and times are kept as they are written. -/
inductive Value where
  | string (text : String)
  | integer (n : Int)
  | float (spelling : String)
  | boolean (b : Bool)
  | moment (spelling : String)
  | array (items : List Value)
  /-- Tables that have the same header, the last of which is still open. -/
  | tables (earlier : List (List (String × Value))) (last : List (String × Value))
  | table (origin : TableOrigin) (entries : List (String × Value))

abbrev Table := List (String × Value)

namespace Table

def get? (table : Table) (name : String) : Option Value :=
  table.lookup name

/-- Set the value of a name, which keeps its place. -/
def put : Table → String → Value → Table
  | [], name, value => [(name, value)]
  | entry :: rest, name, value =>
    if entry.1 = name then (name, value) :: rest else entry :: put rest name value

/-! ## Values under dotted names -/

/-- Whether a dotted name may lead into a table; the table right above the value must have come
from dotted names itself. -/
def isWay (origin : TableOrigin) (isLast : Bool) : Bool :=
  match origin with
  | .dotted => true
  | .above => !isLast
  | .header | .braces => false

/-- Give a new value to the name behind `parents`. -/
def assign (name : String) (value : Value) : List String → Table → Option Table
  | [], table => if (table.get? name).isSome then none else some (table.put name value)
  | parent :: others, table =>
    match table.get? parent with
    | none =>
      (assign name value others []).map fun child => table.put parent (.table .dotted child)
    | some (.table origin child) =>
      if isWay origin others.isEmpty then
        (assign name value others child).map fun child => table.put parent (.table origin child)
      else none
    | some (.tables earlier last) =>
      if others.isEmpty then none
      else (assign name value others last).map fun last => table.put parent (.tables earlier last)
    | some _ => none

/-! ## Headers -/

/-- Change the table to which a header leads. -/
def within (change : Table → Option Table) : List String → Table → Option Table
  | [], table => change table
  | parent :: others, table =>
    match table.get? parent with
    | none => (within change others []).map fun child => table.put parent (.table .above child)
    | some (.table .braces _) => none
    | some (.table origin child) =>
      (within change others child).map fun child => table.put parent (.table origin child)
    | some (.tables earlier last) =>
      (within change others last).map fun last => table.put parent (.tables earlier last)
    | some _ => none

/-- Open the table `name`. -/
def openTable (name : String) (table : Table) : Option Table :=
  match table.get? name with
  | none => some (table.put name (.table .header []))
  | some (.table .above child) => some (table.put name (.table .header child))
  | some _ => none

/-- Add a table to the array `name`. -/
def openItem (name : String) (table : Table) : Option Table :=
  match table.get? name with
  | none => some (table.put name (.tables [] []))
  | some (.tables earlier last) => some (table.put name (.tables (earlier ++ [last]) []))
  | some _ => none

end Table

end ProxyHandshake.Toml
