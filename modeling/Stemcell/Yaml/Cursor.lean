/-!
A place in a text: what follows, and the line and column reached. Lines end at a line feed, at U+0085 and at the
two separators of Unicode.
-/
namespace Stemcell.Yaml

def isBreak (c : Char) : Bool := c = '\n' || c = '\x85' || c = '\u2028' || c = '\u2029'

/-- The mark that may stand in front of a text. It takes no column. -/
def byteOrderMark : Char := '\ufeff'

def endsLine : Option Char → Bool
  | none => true
  | some c => isBreak c

/-- Whether a line ends here or a space follows. -/
def endsPart (c : Option Char) : Bool := endsLine c || c = some ' '

/-- Whether a line ends here or a space or tab follows. -/
def endsWord (c : Option Char) : Bool := endsPart c || c = some '\t'

/-- A place in a text. -/
structure Cursor where
  rest : List Char
  index : Nat := 0
  line : Nat := 0
  column : Nat := 0
  deriving Inhabited

namespace Cursor

def peek (c : Cursor) : Option Char := c.rest.head?

def peekAt (k : Nat) (c : Cursor) : Option Char := c.rest[k]?

/-- The place behind the next character. -/
def next (c : Cursor) : Cursor :=
  match c.rest with
  | [] => c
  | ch :: rest =>
    if isBreak ch then ⟨rest, c.index + 1, c.line + 1, 0⟩
    else ⟨rest, c.index + 1, c.line, if ch = byteOrderMark then c.column else c.column + 1⟩

/-- The place `n` characters ahead. -/
def skip : Nat → Cursor → Cursor
  | 0, c => c
  | n + 1, c => skip n c.next

/-- The longest run of characters that satisfy `p`, and the place behind it. -/
def span (p : Char → Bool) (c : Cursor) : List Char × Cursor :=
  let run := c.rest.takeWhile p
  (run, c.skip run.length)

/-- The place behind all characters from here on that satisfy `p`. -/
def dropWhile (p : Char → Bool) (c : Cursor) : Cursor := (c.span p).2

/-- The place behind all spaces from here on. -/
def dropSpaces (c : Cursor) : Cursor := c.dropWhile (· = ' ')

/-- The place where the line ends, if all up to there is a remark, else this place. -/
def dropRemark (c : Cursor) : Cursor := if c.peek = some '#' then c.dropWhile (!isBreak ·) else c

/-- The end of a line as it counts in a text, and the place behind it. -/
def lineEnd? (c : Cursor) : Option (Char × Cursor) :=
  match c.peek with
  | some ch =>
    if !isBreak ch then none else some (if ch = '\x85' then '\n' else ch, c.next)
  | none => none

/-- Whether a line of three times `mark` starts here. -/
def isAtLine (mark : Char) (c : Cursor) : Bool :=
  c.peekAt 0 = some mark && c.peekAt 1 = some mark && c.peekAt 2 = some mark && endsWord (c.peekAt 3)

/-- Whether the marks between two documents start here. -/
def isAtSeparator (c : Cursor) : Bool := c.isAtLine '-' || c.isAtLine '.'

end Cursor

end Stemcell.Yaml
