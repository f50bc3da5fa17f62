/-!
# Blanks

The characters that a text may have around it without meaning, and the text without them.  These
are the white space of all scripts; a zero width space is not among them.
-/

namespace ProxyHandshake.Text

def isBlank (c : Char) : Bool :=
  let n := c.toNat
  (0x9 ≤ n && n ≤ 0xD) || n == 0x20 || n == 0x85 || n == 0xA0 || n == 0x1680 ||
    (0x2000 ≤ n && n ≤ 0x200A) || n == 0x2028 || n == 0x2029 || n == 0x202F || n == 0x205F ||
    n == 0x3000

/-- `chars` without the characters at its end that satisfy `p`. -/
def dropEnd (p : Char → Bool) (chars : List Char) : List Char :=
  (chars.reverse.dropWhile p).reverse

def trimChars (chars : List Char) : List Char :=
  dropEnd isBlank (chars.dropWhile isBlank)

/-- `text` without the blanks around it. -/
def trim (text : String) : String :=
  String.ofList (trimChars text.toList)

/-- Whether `text` is empty or blank throughout. -/
def isBlankText (text : String) : Bool :=
  text.toList.all isBlank

end ProxyHandshake.Text
