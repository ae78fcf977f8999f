import Stemcell.Json
import Stemcell.Yaml.Cursor
import Stemcell.Yaml.Token
/-!
Texts in a document: plain ones, those in quotes, and blocks of lines. A line end inside of a plain text or one in
quotes counts as a space; empty lines count as line ends.
-/
namespace Stemcell.Yaml

/-- What a line end and the line ends behind it come to in a text that is folded. -/
def folded (lineEnd : Char) (more : List Char) : List Char :=
  if lineEnd ≠ '\n' then lineEnd :: more else if more.isEmpty then [' '] else more

def codes (text : List Char) : List Nat := text.map Char.toNat

namespace Plain

/-- The characters that end a plain text inside of brackets. -/
def isFlowMark (c : Char) : Bool := c = ',' || c = '?' || c = '[' || c = ']' || c = '{' || c = '}'

/-- Whether a colon before this character marks a value. -/
def endsKey (inFlow : Bool) (next : Option Char) : Bool :=
  endsWord next
    || (inFlow && match next with
      | some c => c = ',' || c = '[' || c = ']' || c = '{' || c = '}'
      | none => false)

def wordLength (inFlow : Bool) : List Char → Nat
  | [] => 0
  | c :: rest =>
    if endsWord (some c) || (c = ':' && endsKey inFlow rest.head?) || (inFlow && isFlowMark c) then 0
    else wordLength inFlow rest + 1

/-- The line ends from here to the next word, the last one first; none where the document ends before. -/
def lineEnds (done : List Char) : Nat → Cursor → Option (List Char) × Cursor
  | 0, c => (some done.reverse, c)
  | fuel + 1, c =>
    if c.peek = some ' ' then lineEnds done fuel c.next
    else
      match c.lineEnd? with
      | none => (some done.reverse, c)
      | some (ch, c) => if c.isAtSeparator then (none, c) else lineEnds (ch :: done) fuel c

/-- What stands between two words, the place behind it, and whether there was a line end. -/
def gap (c : Cursor) : List Char × Cursor × Bool :=
  let (spaces, c) := c.span (· = ' ')
  match c.lineEnd? with
  | none => (spaces, c, false)
  | some (ch, c) =>
    if c.isAtSeparator then ([], c, true)
    else
      match lineEnds [] c.rest.length c with
      | (none, c) => ([], c, true)
      | (some more, c) => (folded ch more, c, true)

/-- Reads words from here on, behind what was read and a gap. What follows is on a line of its own if the last
gap had a line end. -/
def words (inFlow : Bool) (indent : Int) (done space : List Char) (onNewLine : Bool) :
    Nat → Cursor → List Char × Cursor × Bool
  | 0, c => (done, c, onNewLine)
  | fuel + 1, c =>
    let n := wordLength inFlow c.rest
    if c.peek = some '#' || n = 0 then (done, c, onNewLine)
    else
      let done := done ++ space ++ c.rest.take n
      let (space, c, onNewLine) := gap (c.skip n)
      if space.isEmpty || c.peek = some '#' || (!inFlow && (c.column : Int) < indent) then (done, c, onNewLine)
      else words inFlow indent done space onNewLine fuel c

/-- Reads a plain text, of which further lines are indented at least by `indent`. -/
def read (inFlow : Bool) (indent : Int) (c : Cursor) : Token × Cursor × Bool :=
  let (text, c, onNewLine) := words inFlow indent [] [] false c.rest.length c
  (.scalar (codes text) true, c, onNewLine)

end Plain

namespace Quoted

/-- The line ends from here to the next word. -/
def lineEnds (done : List Char) : Nat → Cursor → Except Obstacle (List Char × Cursor)
  | 0, c => .ok (done.reverse, c)
  | fuel + 1, c =>
    if c.isAtSeparator then .error (.problem .separatorInQuote)
    else
      let c := c.dropWhile fun ch => ch = ' ' || ch = '\t'
      match c.lineEnd? with
      | none => .ok (done.reverse, c)
      | some (ch, c) => lineEnds (ch :: done) fuel c

/-- The character that one behind a backslash stands for. -/
def escaped? : Char → Option Char
  | '0' => some '\x00'
  | 'a' => some '\x07'
  | 'b' => some '\x08'
  | 't' | '\t' => some '\t'
  | 'n' => some '\n'
  | 'v' => some '\x0b'
  | 'f' => some '\x0c'
  | 'r' => some '\r'
  | 'e' => some '\x1b'
  | ' ' => some ' '
  | '"' => some '"'
  | '\\' => some '\\'
  | '/' => some '/'
  | 'N' => some '\x85'
  | '_' => some '\xa0'
  | 'L' => some '\u2028'
  | 'P' => some '\u2029'
  | _ => none

/-- How many digits follow a character behind a backslash that starts a number. -/
def digitCount? : Char → Option Nat
  | 'x' => some 2
  | 'u' => some 4
  | 'U' => some 8
  | _ => none

def hexNumber? (digits : List Char) : Option Nat :=
  digits.foldlM (fun n c => (Json.hexValue? c).map (n * 16 + ·)) 0

/-- A number as one of a character; a half of a pair of surrogates may be one. -/
def characterCode (n : Nat) : Except Obstacle Nat :=
  if Nat.pow 2 31 ≤ n then .error (.fault .codeTooLarge)
  else if 0x110000 ≤ n then .error (.fault .noSuchCharacter)
  else .ok n

/-- Reads what follows a backslash. -/
def escape (c : Cursor) : Except Obstacle (List Nat × Cursor) :=
  match c.peek with
  | none => .error (.problem .unknownEscape)
  | some ch =>
    match escaped? ch, digitCount? ch, c.lineEnd? with
    | some e, _, _ => .ok ([e.toNat], c.next)
    | none, some count, _ =>
      let c := c.next
      match hexNumber? (c.rest.take count) with
      | some n =>
        if c.rest.length < count then .error (.problem (.expected "hexadecimal digits"))
        else (characterCode n).map fun code => ([code], c.skip count)
      | none => .error (.problem (.expected "hexadecimal digits"))
    | none, none, some (_, c) => (lineEnds [] (c.rest.length + 1) c).map fun (chars, c) => (codes chars, c)
    | none, none, none => .error (.problem .unknownEscape)

/-- Reads on to the closing quote, behind what was read, the last character first. -/
def readFrom (quote : Char) (done : List Nat) : Nat → Cursor → Except Obstacle (List Nat × Cursor)
  | 0, _ => .error (.problem .unclosedQuote)
  | fuel + 1, c =>
    match c.peek with
    | none => .error (.problem .unclosedQuote)
    | some ch =>
      if endsWord (some ch) then
        let (spaces, c) := c.span fun ch => ch = ' ' || ch = '\t'
        match c.lineEnd? with
        | none => readFrom quote ((codes spaces).reverse ++ done) fuel c
        | some (ch, c) =>
          match lineEnds [] (c.rest.length + 1) c with
          | .error e => .error e
          | .ok (more, c) => readFrom quote ((codes (folded ch more)).reverse ++ done) fuel c
      else if ch = quote then
        if quote = '\'' && c.peekAt 1 = some '\'' then readFrom quote (ch.toNat :: done) fuel (c.skip 2)
        else .ok (done.reverse, c.next)
      else if ch = '\\' && quote = '"' then
        match escape c.next with
        | .error e => .error e
        | .ok (more, c) => readFrom quote (more.reverse ++ done) fuel c
      else readFrom quote (ch.toNat :: done) fuel c.next

def read (quote : Char) (c : Cursor) : Except Obstacle (Token × Cursor) :=
  (readFrom quote [] (c.rest.length + 1) c.next).map fun (codes, c) => (.scalar codes false, c)

end Quoted

namespace Block

/-- What becomes of the line ends behind a block: one is kept, none, or all. -/
inductive Chomping where
  | clip | strip | keep
  deriving DecidableEq, Repr

def chomping? : Option Char → Option Chomping
  | some '+' => some .keep
  | some '-' => some .strip
  | _ => none

/-- The indentation that a character asks for; zero is none. -/
def indentation? : Option Char → Except Obstacle (Option Nat)
  | some '0' => .error (.problem (.expected "indentation indicator in the range 1-9"))
  | some c => .ok (if c.isDigit then some (c.toNat - '0'.toNat) else none)
  | none => .ok none

/-- Reads the marks behind the start of a block. -/
def indicators (c : Cursor) : Except Obstacle (Chomping × Option Nat × Cursor) := do
  match chomping? c.peek with
  | some chomping =>
    let c := c.next
    match ← indentation? c.peek with
    | some n => return (chomping, some n, c.next)
    | none => return (chomping, none, c)
  | none =>
    match ← indentation? c.peek with
    | none => return (.clip, none, c)
    | some n =>
      let c := c.next
      match chomping? c.peek with
      | some chomping => return (chomping, some n, c.next)
      | none => return (.clip, some n, c)

/-- Reads the rest of the first line. -/
def header (c : Cursor) : Except Obstacle (Chomping × Option Nat × Cursor) := do
  let (chomping, indentation, c) ← indicators c
  if !endsPart c.peek then throw (.problem (.expected "chomping or indentation indicators"))
  let c := c.dropSpaces.dropRemark
  if !endsLine c.peek then throw (.problem (.expected "a comment or a line break"))
  return (chomping, indentation, c.next)

/-- The empty lines at the start of a block and its greatest indentation up to the first line with text. -/
def leading (done : List Char) (widest : Nat) : Nat → Cursor → List Char × Nat × Cursor
  | 0, c => (done.reverse, widest, c)
  | fuel + 1, c =>
    if c.peek = some ' ' then
      let c := c.next
      leading done (max widest c.column) fuel c
    else
      match c.lineEnd? with
      | none => (done.reverse, widest, c)
      | some (ch, c) => leading (ch :: done) widest fuel c

/-- The place behind the spaces that belong to the indentation. -/
def dropIndent (indent : Nat) : Nat → Cursor → Cursor
  | 0, c => c
  | fuel + 1, c => if c.column < indent && c.peek = some ' ' then dropIndent indent fuel c.next else c

def emptyLines (indent : Nat) (done : List Char) : Nat → Cursor → List Char × Cursor
  | 0, c => (done.reverse, c)
  | fuel + 1, c =>
    let c := dropIndent indent indent c
    match c.lineEnd? with
    | none => (done.reverse, c)
    | some (ch, c) => emptyLines indent (ch :: done) fuel c

/-- The text of the lines from here on, behind what was read, with the end of its last line and the empty lines
behind that. -/
def lines (isFolded : Bool) (indent : Nat) (done empty : List Char) :
    Nat → Cursor → List Char × List Char × List Char × Cursor
  | 0, c => (done ++ empty, [], [], c)
  | fuel + 1, c =>
    let starts := c.peek
    let (line, c) := c.span (!isBreak ·)
    let done := done ++ empty ++ line
    let (lineEnd, c) :=
      match c.lineEnd? with
      | some (ch, c) => ([ch], c)
      | none => ([], c)
    let (empty, c) := emptyLines indent [] (c.rest.length + 1) c
    if c.column = indent && c.peek.isSome then
      let isText (ch : Option Char) : Bool := ch ≠ some ' ' && ch ≠ some '\t'
      let glue :=
        if isFolded && lineEnd = ['\n'] && isText starts && isText c.peek then
          if empty.isEmpty then [' '] else []
        else lineEnd
      lines isFolded indent (done ++ glue) empty fuel c
    else (done, lineEnd, empty, c)

/-- Reads a block below a collection that is indented by `outer`. -/
def read (isFolded : Bool) (outer : Int) (c : Cursor) : Except Obstacle (Token × Cursor) := do
  let (chomping, indentation, c) ← header c.next
  let least := max (outer + 1).toNat 1
  let (indent, empty, c) :=
    match indentation with
    | none =>
      let (empty, widest, c) := leading [] 0 (c.rest.length + 1) c
      (max least widest, empty, c)
    | some n =>
      let indent := least + n - 1
      let (empty, c) := emptyLines indent [] (c.rest.length + 1) c
      (indent, empty, c)
  let (text, lineEnd, empty, c) :=
    if c.column = indent && c.peek.isSome then lines isFolded indent [] empty (c.rest.length + 1) c
    else ([], [], empty, c)
  let text :=
    match chomping with
    | .strip => text
    | .clip => text ++ lineEnd
    | .keep => text ++ lineEnd ++ empty
  return (.scalar (codes text) false, c)

end Block

end Stemcell.Yaml
