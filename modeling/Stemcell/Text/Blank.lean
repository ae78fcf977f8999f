/-!
Blank characters: white space, line and paragraph ends and the four information separators. The zero-width
space and the byte order mark are not blank.
-/
namespace Stemcell.Text

def isBlank (c : Char) : Bool :=
  let n := c.toNat
  (0x09 ≤ n && n ≤ 0x0d) || (0x1c ≤ n && n ≤ 0x20) || n = 0x85 || n = 0xa0 || n = 0x1680
    || (0x2000 ≤ n && n ≤ 0x200a) || n = 0x2028 || n = 0x2029 || n = 0x202f || n = 0x205f || n = 0x3000

def stripLeft (s : List Char) : List Char := s.dropWhile isBlank

/-- A text without the blanks at both ends. -/
def stripChars (s : List Char) : List Char := (stripLeft (stripLeft s).reverse).reverse

/-- A string without the blanks at both ends. -/
def strip (s : String) : String := String.ofList (stripChars s.toList)

end Stemcell.Text
