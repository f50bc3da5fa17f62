import ProxyHandshake.Challenge
import ProxyHandshake.Text.Blank
import ProxyHandshake.Text.Split

/-!
# Reading challenges

A header lists challenges with commas between them, and the parameters of a challenge have commas
between them too: an item that is a word alone, or a word and a blank, begins a challenge, and one
that begins with `name=` continues the challenge before it.  Commas between quotes separate
nothing.  Items that make no sense are passed over.
-/

namespace ProxyHandshake.Challenge

/-! ## Items -/

/-- The items between the commas that stand outside quotes.  A backslash inside quotes takes its
meaning from the character behind it. -/
def split (quoted escaped : Bool) : List Char → List (List Char)
  | [] => [[]]
  | c :: rest =>
    if escaped then Text.growFirst c (split quoted false rest)
    else if c = '\\' ∧ quoted then Text.growFirst c (split quoted true rest)
    else if c = '"' then Text.growFirst c (split (!quoted) false rest)
    else if c = ',' ∧ !quoted then [] :: split quoted false rest
    else Text.growFirst c (split quoted false rest)

def items (header : List Char) : List (List Char) :=
  split false false header

/-! ## Parameters and tokens -/

/-- The text between quotes, with backslashes taken away. -/
def unescape : List Char → List Char
  | [] => []
  | ['\\'] => []
  | '\\' :: c :: rest => c :: unescape rest
  | c :: rest => c :: unescape rest

/-- A value without the quotes around it, if it has both. -/
def unquote (value : List Char) : List Char :=
  match value with
  | '"' :: rest => if rest.getLast? = some '"' then unescape rest.dropLast else value
  | _ => value

def readParam? (item : List Char) : Option (String × String) :=
  match Text.cutFirst? (· == '=') item with
  | none => none
  | some (before, behind) =>
    let name := Text.trimChars before
    if name.isEmpty || name.any Text.isBlank then none
    else some (String.ofList name, String.ofList (unquote (Text.trimChars behind)))

def isToken68Char (c : Char) : Bool :=
  c.isAlphanum || "-._~+/".toList.contains c

def isToken68 (text : List Char) : Bool :=
  let body := Text.dropEnd (· == '=') text
  !body.isEmpty && body.all isToken68Char

/-! ## Challenges -/

/-- The parameter in `item` added to the last of the challenges, which comes first in `done`. -/
def continueLast (done : List Challenge) (item : List Char) : List Challenge :=
  match done, readParam? item with
  | challenge :: earlier, some param =>
    { challenge with params := challenge.params ++ [param] } :: earlier
  | _, _ => done

/-- The challenge that begins with the word `scheme` and goes on with `rest`. -/
def begin (scheme rest : List Char) : Challenge :=
  let rest := Text.trimChars rest
  if isToken68 rest then ⟨String.ofList scheme, some (String.ofList rest), []⟩
  else ⟨String.ofList scheme, none, (readParam? rest).toList⟩

/-- Read one more item; `done` holds the challenges so far, the last one first. -/
def readItem (done : List Challenge) (item : List Char) : List Challenge :=
  let item := Text.trimChars item
  let isMark := fun c => Text.isBlank c || c == '='
  let word := item.takeWhile fun c => !isMark c
  match item.dropWhile fun c => !isMark c with
  | [] => if word.isEmpty then done else bare (String.ofList word) :: done
  | c :: rest =>
    if Text.isBlank c then begin word rest :: done else continueLast done item

def readChars (header : List Char) : List Challenge :=
  ((items header).foldl readItem []).reverse

/-- The challenges of one header. -/
def read (header : String) : List Challenge :=
  readChars header.toList

/-- The challenges of several headers; a header that is not plain text is passed over. -/
def readAll (values : List HeaderValue) : List Challenge :=
  (values.filterMap HeaderValue.text?).flatMap readChars

end ProxyHandshake.Challenge
