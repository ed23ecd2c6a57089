/-! # Blank characters

White space in the sense of the Unicode property `White_Space`, and removing it from the two ends
of a text. U+200B, U+FEFF and the separators U+001C to U+001F are not white space.
-/

namespace Gatehouse.Text

/-- The characters with the Unicode property `White_Space`. -/
def isBlank (c : Char) : Bool :=
  let n := c.toNat
  (9 ≤ n && n ≤ 13) || n == 0x20 || n == 0x85 || n == 0xA0 || n == 0x1680 ||
    (0x2000 ≤ n && n ≤ 0x200A) || n == 0x2028 || n == 0x2029 || n == 0x202F || n == 0x205F ||
    n == 0x3000

/-- Drops the leading and the trailing characters in the class `drop`. -/
def strip (drop : Char → Bool) (s : List Char) : List Char :=
  ((s.dropWhile drop).reverse.dropWhile drop).reverse

/-- A text without the white space around it. -/
def trim (s : List Char) : List Char :=
  strip isBlank s

def trimmed (s : String) : String :=
  String.ofList (trim s.toList)

end Gatehouse.Text
