/-!
# Cutting lists in two

A list is cut at the first or at the last element with a property; that element belongs to neither
half.  Cutting at every such element gives the pieces between them.
-/

namespace ProxyHandshake.Text

variable {α : Type}

/-- What is before and behind the first element that satisfies `p`. -/
def cutFirst? (p : α → Bool) : List α → Option (List α × List α)
  | [] => none
  | a :: rest =>
    if p a then some ([], rest)
    else (cutFirst? p rest).map fun (before, behind) => (a :: before, behind)

/-- What is before and behind the last element that satisfies `p`. -/
def cutLast? (p : α → Bool) : List α → Option (List α × List α)
  | [] => none
  | a :: rest =>
    match cutLast? p rest with
    | some (before, behind) => some (a :: before, behind)
    | none => if p a then some ([], rest) else none

/-- Put `a` in front of the first piece. -/
def growFirst (a : α) : List (List α) → List (List α)
  | [] => [[a]]
  | piece :: others => (a :: piece) :: others

/-- The pieces between the elements that satisfy `p`. -/
def pieces (p : α → Bool) : List α → List (List α)
  | [] => [[]]
  | a :: rest => if p a then [] :: pieces p rest else growFirst a (pieces p rest)

/-- The pieces joined again, with `mark` between them. -/
def joinPieces (mark : α) : List (List α) → List α
  | [] => []
  | [piece] => piece
  | piece :: others => piece ++ mark :: joinPieces mark others

/-- The rest of a list behind a given beginning. -/
def behind? [DecidableEq α] : List α → List α → Option (List α)
  | [], list => some list
  | _ :: _, [] => none
  | a :: start, b :: list => if a = b then behind? start list else none

end ProxyHandshake.Text
