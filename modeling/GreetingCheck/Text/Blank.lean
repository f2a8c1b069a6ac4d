/-!
# White space

The white space of Unicode (the property `White_Space`), and a text without the white space at its
two ends.
-/

namespace GreetingCheck.Text

/-- Whether a character is white space. The information separators U+001C to U+001F, the zero-width
space and the byte order mark are not. -/
def isBlank (c : Char) : Bool :=
  let n := c.toNat
  (0x09 ≤ n && n ≤ 0x0D) || n = 0x20 || n = 0x85 || n = 0xA0 || n = 0x1680 ||
    (0x2000 ≤ n && n ≤ 0x200A) || n = 0x2028 || n = 0x2029 || n = 0x202F || n = 0x205F || n = 0x3000

/-- A text without the white space at its start. -/
def trimStart (text : List Char) : List Char := text.dropWhile isBlank

/-- A text without the white space at its end. -/
def trimEnd (text : List Char) : List Char := (trimStart text.reverse).reverse

/-- A text without the white space at either end. -/
def trim (text : List Char) : List Char := trimEnd (trimStart text)

end GreetingCheck.Text
