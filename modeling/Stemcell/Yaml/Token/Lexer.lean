import Stemcell.Yaml.Source
import Stemcell.Yaml.Token.Name
/-!
Reading the tokens of a document. What belongs together is shown by brackets or by indentation; for the latter
there are tokens too. That a text was a key is known only at the colon behind it: the token of the key is then
entered at the place that was kept for it, no more than a line and 1024 characters back.
-/
namespace Stemcell.Yaml

/-- A place where a key may have started. -/
structure KeyPlace where
  place : Nat
  /-- Whether there must be a key, because the line is indented like a mapping. -/
  required : Bool
  index : Nat
  line : Nat
  column : Nat

/-- How far a reader has come. -/
structure Lexer where
  cursor : Cursor
  /-- The tokens so far, the last one first, and their number. -/
  tokens : List Token := []
  count : Nat := 0
  /-- How many brackets are open. -/
  depth : Nat := 0
  /-- The column of the innermost collection, and those around it. -/
  indent : Int := -1
  outer : List Int := []
  /-- Whether a key can start here without a mark of its own. -/
  keyAllowed : Bool := true
  /-- Where keys may have started, for each number of open brackets the last place. -/
  places : List (Nat × KeyPlace) := []

namespace Lexer

/-- How far behind its start the colon of a key may be. -/
def keyReach : Nat := 1024

/-- The problem of a key that has no colon. -/
def unfinishedKey : Obstacle := .problem (.expected "':'")

def push (t : Token) (l : Lexer) : Lexer := { l with tokens := t :: l.tokens, count := l.count + 1 }

def enter (place : Nat) (t : Token) (l : Lexer) : Lexer :=
  let behind := l.count - place
  { l with tokens := l.tokens.take behind ++ t :: l.tokens.drop behind, count := l.count + 1 }

def goTo (c : Cursor) (l : Lexer) : Lexer := { l with cursor := c }

def column (l : Lexer) : Int := l.cursor.column

/-- Skips what stands between tokens: spaces, remarks and line ends. -/
def skipGap : Nat → Lexer → Lexer
  | 0, l => l
  | fuel + 1, l =>
    let c := l.cursor.dropSpaces.dropRemark
    match c.lineEnd? with
    | none => l.goTo c
    | some (_, c) => skipGap fuel { l with cursor := c, keyAllowed := l.keyAllowed || l.depth = 0 }

/-- Whether a place is too far back for a key. -/
def isStale (l : Lexer) (k : KeyPlace) : Bool := k.line ≠ l.cursor.line || keyReach < l.cursor.index - k.index

/-- Gives up the places that are too far back. -/
def dropStale (l : Lexer) : Except Obstacle Lexer :=
  if l.places.any fun p => p.2.required && l.isStale p.2 then .error unfinishedKey
  else .ok { l with places := l.places.filter fun p => !l.isStale p.2 }

/-- The place where a key may have started, under as many brackets as are open now. -/
def keyPlace? (l : Lexer) : Option KeyPlace := (l.places.find? (·.1 = l.depth)).map Prod.snd

/-- Gives up the place for a key. -/
def dropKey (l : Lexer) : Except Obstacle Lexer :=
  if (l.keyPlace?.map KeyPlace.required).getD false then .error unfinishedKey
  else .ok { l with places := l.places.filter (·.1 ≠ l.depth) }

/-- Keeps this place for a key, if one may start here. -/
def keepKey (l : Lexer) : Except Obstacle Lexer :=
  if !l.keyAllowed then .ok l
  else
    let required := l.depth = 0 && l.indent = l.column
    let place : KeyPlace := ⟨l.count, required, l.cursor.index, l.cursor.line, l.cursor.column⟩
    l.dropKey.map fun l => { l with places := (l.depth, place) :: l.places }

/-- Ends the collections that are indented beyond a column. -/
def unwindFrom (column : Int) : List Int → Lexer → Lexer
  | [], l => if column < l.indent then { l.push .blockEnd with indent := -1, outer := [] } else l
  | around :: rest, l =>
    if column < l.indent then unwindFrom column rest { l.push .blockEnd with indent := around, outer := rest }
    else l

/-- Ends the collections that are indented beyond a column, unless brackets are open. -/
def unwind (column : Int) (l : Lexer) : Lexer := if l.depth = 0 then unwindFrom column l.outer l else l

/-- Starts a collection at a column with a token at a place, unless the innermost one is there already. -/
def indentTo (column : Int) (place : Nat) (t : Token) (l : Lexer) : Lexer :=
  if l.indent < column then
    { l.enter place t with indent := column, outer := l.indent :: l.outer }
  else l

/-- Adds a token that is `width` characters long. -/
def take (width : Nat) (t : Token) (l : Lexer) : Lexer := (l.push t).goTo (l.cursor.skip width)

/-- Reads the end of the document. -/
def finish (l : Lexer) : Except Obstacle Lexer := (l.unwind (-1)).dropKey

/-- Prepares for something that stands outside of all collections. -/
def leaveAll (l : Lexer) : Except Obstacle Lexer :=
  (l.unwind (-1)).dropKey.map fun l => { l with keyAllowed := false }

def directive (l : Lexer) : Except Obstacle Lexer := do
  let l ← l.leaveAll
  let (t, c) ← Directive.token l.cursor
  return (l.push t).goTo c

/-- Reads the mark of a document's start or end. -/
def documentMark (t : Token) (l : Lexer) : Except Obstacle Lexer := l.leaveAll.map (take 3 t)

def opening (t : Token) (l : Lexer) : Except Obstacle Lexer :=
  l.keepKey.map fun l => { l.take 1 t with depth := l.depth + 1, keyAllowed := true }

def closing (t : Token) (l : Lexer) : Except Obstacle Lexer :=
  if l.depth = 0 then .error (.problem (.misplaced "closing brackets"))
  else l.dropKey.map fun l => { l.take 1 t with depth := l.depth - 1, keyAllowed := false }

def comma (l : Lexer) : Except Obstacle Lexer :=
  l.dropKey.map fun l => { l.take 1 .comma with keyAllowed := true }

def item (l : Lexer) : Except Obstacle Lexer :=
  if l.depth = 0 && !l.keyAllowed then .error (.problem (.misplaced "sequence entries"))
  else
    let l := if l.depth = 0 then l.indentTo l.column l.count .blockSequence else l
    l.dropKey.map fun l => { l.take 1 .item with keyAllowed := true }

def keyMark (l : Lexer) : Except Obstacle Lexer :=
  if l.depth = 0 && !l.keyAllowed then .error (.problem (.misplaced "mapping keys"))
  else
    let l := if l.depth = 0 then l.indentTo l.column l.count .blockMapping else l
    l.dropKey.map fun l => { l.take 1 .key with keyAllowed := l.depth = 0 }

def valueMark (l : Lexer) : Except Obstacle Lexer :=
  match l.keyPlace? with
  | some k =>
    let l := { l with places := l.places.filter (·.1 ≠ l.depth) }.enter k.place .key
    let l := if l.depth = 0 then l.indentTo k.column k.place .blockMapping else l
    .ok { l.take 1 .value with keyAllowed := false }
  | none =>
    if l.depth = 0 && !l.keyAllowed then .error (.problem (.misplaced "mapping values"))
    else
      let l := if l.depth = 0 then l.indentTo l.column l.count .blockMapping else l
      l.dropKey.map fun l => { l.take 1 .value with keyAllowed := l.depth = 0 }

/-- Reads something that may be a key or belong to one. -/
def part (read : Cursor → Except Obstacle (Token × Cursor)) (l : Lexer) : Except Obstacle Lexer := do
  let l ← l.keepKey
  let (t, c) ← read l.cursor
  return { (l.push t).goTo c with keyAllowed := false }

def block (isFolded : Bool) (l : Lexer) : Except Obstacle Lexer := do
  let l ← { l with keyAllowed := true }.dropKey
  let (t, c) ← Block.read isFolded l.indent l.cursor
  return (l.push t).goTo c

def plain (l : Lexer) : Except Obstacle Lexer := do
  let l ← l.keepKey
  let (t, c, onNewLine) := Plain.read (l.depth ≠ 0) (l.indent + 1) l.cursor
  return { (l.push t).goTo c with keyAllowed := onNewLine }

/-- The characters with which no plain text starts. -/
def startMarks : List Char := "-?:,[]\x7b\x7d#&*!|>'\"%@`".toList

/-- Whether a plain text starts with a character, given the one behind it. -/
def startsPlain (l : Lexer) (ch : Char) (behind : Option Char) : Bool :=
  (!endsWord (some ch) && !startMarks.contains ch)
    || (!endsWord behind && (ch = '-' || (l.depth = 0 && (ch = '?' || ch = ':'))))

def token (ch : Char) (l : Lexer) : Except Obstacle Lexer :=
  let c := l.cursor
  let behind := c.peekAt 1
  let inFlow := l.depth ≠ 0
  if ch = '%' && c.column = 0 then l.directive
  else if c.column = 0 && c.isAtLine '-' then l.documentMark .documentStart
  else if c.column = 0 && c.isAtLine '.' then l.documentMark .documentEnd
  else if ch = '[' then l.opening .openBracket
  else if ch = '{' then l.opening .openBrace
  else if ch = ']' then l.closing .closeBracket
  else if ch = '}' then l.closing .closeBrace
  else if ch = ',' then l.comma
  else if ch = '-' && endsWord behind then l.item
  else if ch = '?' && (inFlow || endsWord behind) then l.keyMark
  else if ch = ':' && (inFlow || endsWord behind) then l.valueMark
  else if ch = '*' then l.part fun c => (anchorName c).map fun (n, c) => (.reference n, c)
  else if ch = '&' then l.part fun c => (anchorName c).map fun (n, c) => (.anchor n, c)
  else if ch = '!' then l.part TagText.token
  else if ch = '|' && !inFlow then l.block false
  else if ch = '>' && !inFlow then l.block true
  else if ch = '\'' || ch = '"' then l.part (Quoted.read ch)
  else if l.startsPlain ch behind then l.plain
  else .error (.problem (.unexpected ch))

/-- The tokens that need no look ahead: those before the first place where the token of a key may yet be
entered. -/
def settled (l : Lexer) : List Token :=
  match ((l.places.filter fun p => !l.isStale p.2).map (·.2.place)).min? with
  | some place => l.tokens.reverse.take place
  | none => l.tokens.reverse

/-- Fails where the text cannot be read on. The character behind this place has to be known too. -/
def checkHorizon (horizon : Option Horizon) (l : Lexer) : Except Obstacle Unit :=
  match horizon with
  | some h => if h.index ≤ l.cursor.index + 1 then .error h.obstacle else .ok ()
  | none => .ok ()

/-- What a problem is in a text with a horizon: a quote may be closed behind it. -/
def seen (horizon : Option Horizon) (e : Obstacle) : Obstacle :=
  match horizon, e with
  | some h, .problem .unclosedQuote => h.obstacle
  | _, e => e

/-- Reads the next token, and tells whether there is one. -/
def step (horizon : Option Horizon) (l : Lexer) : Except Obstacle (Lexer × Bool) := do
  let l := l.skipGap (l.cursor.rest.length + 1)
  l.checkHorizon horizon
  let l ← l.dropStale
  let l := l.unwind l.column
  match l.cursor.peek with
  | none => return (← l.finish, false)
  | some ch =>
    let l ← (l.token ch).mapError (seen horizon)
    l.checkHorizon horizon
    return (← l.dropStale, true)

/-- Reads tokens to the end of the text. Each takes at least one character of it. -/
def run (horizon : Option Horizon) : Nat → Lexer → Tokens
  | 0, l => { list := l.settled }
  | fuel + 1, l =>
    match l.step horizon with
    | .error e => { list := l.settled, obstacle := some e }
    | .ok (l, true) => run horizon fuel l
    | .ok (l, false) => { list := l.tokens.reverse }

end Lexer

/-- The tokens of a text. A byte order mark in front is skipped. -/
def Source.tokens (source : Source) : Tokens :=
  let start : Cursor := { rest := source.text }
  let start := if start.peek = some byteOrderMark then start.next else start
  Lexer.run source.horizon (source.text.length + 2) { cursor := start }

end Stemcell.Yaml
