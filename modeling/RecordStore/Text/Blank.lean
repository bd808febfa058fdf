/-!
# White space

The characters with the Unicode property `White_Space`, and removing them from the ends of a text.
-/

namespace RecordStore

/-- The characters that Unicode calls white space. -/
def isBlank (c : Char) : Bool :=
  let n := c.toNat
  (0x09 ≤ n && n ≤ 0x0D) || n == 0x20 || n == 0x85 || n == 0xA0 || n == 0x1680 ||
    (0x2000 ≤ n && n ≤ 0x200A) || n == 0x2028 || n == 0x2029 || n == 0x202F || n == 0x205F ||
    n == 0x3000

/-- A text without the white space at its front. -/
def trimFront (text : List Char) : List Char := text.dropWhile isBlank

/-- A text without the white space at its two ends. -/
def trimText (text : List Char) : List Char :=
  (trimFront (trimFront text).reverse).reverse

def isBlankText (text : List Char) : Bool := text.all isBlank

end RecordStore
