import ProxyHandshake.Http.Header

/-!
# Methods

A method is a word of the characters that header names are made of, in which case matters.
-/

namespace ProxyHandshake

def isMethodName (chars : List Char) : Bool :=
  !chars.isEmpty && chars.all fun c => c.isAlpha || isTokenMark c

structure Method where
  text : String
  legal : isMethodName text.toList
deriving DecidableEq, Repr

namespace Method

def ofText? (text : String) : Option Method :=
  if h : isMethodName text.toList then some ⟨text, h⟩ else none

def invalidText : String := "invalid HTTP method"

def get : Method := ⟨"GET", by decide⟩
def post : Method := ⟨"POST", by decide⟩

end Method

end ProxyHandshake
