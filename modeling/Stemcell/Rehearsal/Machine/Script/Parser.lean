import Stemcell.Rehearsal.Machine.Octets
import Stemcell.Rehearsal.Machine.Script
/-!
Reading scripts, one line after the other: a line holds whole commands, and a command that is not finished goes on
with the next line. Texts of redirections stand behind the line that mentions them.
-/
namespace Stemcell.Rehearsal.Machine

/-- What is wrong with a script, and the line where that shows. -/
structure Flaw where
  line : Nat
  message : String
  deriving DecidableEq, Repr

/-- The start of a redirection; in a text of the script, tabs in front of its lines may not count. -/
structure Opened where
  number : Nat
  opening : Opening
  dropTabs : Bool

inductive Lexeme where
  | finished
  | lineEnd
  | mark (s : String)
  /-- A word with a meaning of its own. -/
  | reserved (s : String)
  | word (word : Word)
  | redirection (opened : Opened)

/-- A text of a redirection that is still to be read. -/
structure Pending where
  number : Nat
  delimiter : String
  dropTabs : Bool
  /-- Whether parameters in it stand for their values. -/
  isLive : Bool

/-- How far a script has been read. -/
structure Reading where
  rest : List Char
  line : Nat := 1
  /-- The next part, if it was looked at already. -/
  ahead : Option Lexeme := none
  pending : List Pending := []
  /-- The texts of redirections by number. -/
  documents : List (Nat × Word) := []
  /-- How many redirections with texts there were. -/
  count : Nat := 0
  /-- Whether the text of a redirection is being read. -/
  inDocument : Bool := false

abbrev Reader (α : Type) := StateT Reading (Except Flaw) α

/-- What a run of pieces stands in, which says where it ends and what is quoted in it. -/
inductive Setting where
  | word
  | doubleQuotes
  | braces (isQuoted : Bool)
  | expression (depth : Nat)
  | document
  deriving DecidableEq, Repr

def Setting.isQuoted : Setting → Bool
  | .word => false
  | .braces isQuoted => isQuoted
  | _ => true

/-- How much a list of commands takes. -/
inductive Extent where
  /-- Up to a word or mark that ends the list, which has one command at least. -/
  | body
  /-- Up to such a word or mark, or nothing. -/
  | anything
  | line
  deriving DecidableEq, Repr

namespace Reader

def reservedWords : List String :=
  ["!", "\x7b", "\x7d", "case", "do", "done", "elif", "else", "esac", "fi", "for", "if", "in", "then", "until", "while"]

def fail {α : Type} (message : String) : Reader α := do throw ⟨(← get).line, "Syntax error: " ++ message⟩

def peek : Reader (Option Char) := return (← get).rest.head?

/-- Goes behind some characters. -/
def drop (n : Nat) : Reader Unit := modify fun r =>
  { r with rest := r.rest.drop n, line := r.line + (r.rest.take n).count '\n' }

/-- The longest run of characters that satisfy a condition. -/
def run (p : Char → Bool) : Reader String := do
  let chars := (← get).rest.takeWhile p
  drop chars.length
  return String.ofList chars

/-- Pieces with one more character; the last one comes first. -/
def addChar (c : Char) (quoted : Bool) : List Piece → List Piece
  | .text s q :: rest => if q = quoted then .text (s.push c) q :: rest else .text (String.singleton c) quoted :: .text s q :: rest
  | pieces => .text (String.singleton c) quoted :: pieces

def endsWord (c : Char) : Bool := " \t\n;&|<>()".toList.contains c

/-- The characters of parameters that have no names. -/
def isSpecial (c : Char) : Bool := "@*#?$!-".toList.contains c

def singleQuoted : Reader String := do
  let s ← run (· ≠ '\'')
  if (← peek).isNone then fail "Unterminated quoted string"
  drop 1
  return s

/-- The text between two grave accents, and what is left. -/
def accented (done : List Char) : List Char → Option (List Char × List Char)
  | [] => none
  | '\x60' :: rest => some (done.reverse, rest)
  | '\\' :: c :: rest =>
    if c = '\x60' || c = '\\' || c = '$' then accented (c :: done) rest else accented (c :: '\\' :: done) rest
  | c :: rest => accented (c :: done) rest

/-- The part at the front of a text that starts with a mark. -/
def markAt (s : List Char) : Option (Lexeme × Nat) :=
  match s with
  | ';' :: ';' :: _ => some (.mark ";;", 2)
  | '&' :: '&' :: _ => some (.mark "&&", 2)
  | '|' :: '|' :: _ => some (.mark "||", 2)
  | '\n' :: _ => some (.lineEnd, 1)
  | c :: _ => if ";&|()".toList.contains c then some (.mark (String.singleton c), 1) else none
  | [] => some (.finished, 0)

def redirectionAt (s : List Char) : Option (Lexeme × Nat) :=
  let (number, s, width) :=
    match s with
    | c :: more => if c.isDigit then (some (c.toNat - '0'.toNat), more, 1) else (none, s, 0)
    | [] => (none, s, 0)
  let found (usual : Nat) (opening : Opening) (dropTabs : Bool) (n : Nat) : Option (Lexeme × Nat) :=
    some (.redirection ⟨number.getD usual, opening, dropTabs⟩, width + n)
  match s with
  | '<' :: '<' :: '-' :: _ => found 0 (.document 0) true 3
  | '<' :: '<' :: _ => found 0 (.document 0) false 2
  | '<' :: '&' :: _ => found 0 .duplicate false 2
  | '<' :: '>' :: _ => found 0 .input false 2
  | '<' :: _ => found 0 .input false 1
  | '>' :: '>' :: _ => found 1 .append false 2
  | '>' :: '&' :: _ => found 1 .duplicate false 2
  | '>' :: '|' :: _ => found 1 .overwrite false 2
  | '>' :: _ => found 1 .output false 1
  | _ => none

/-- Skips blanks, escaped line ends and remarks. -/
def skipBlanks : Nat → Reader Unit
  | 0 => pure ()
  | fuel + 1 => do
    match (← get).rest with
    | ' ' :: _ | '\t' :: _ =>
      drop 1
      skipBlanks fuel
    | '\\' :: '\n' :: _ =>
      drop 2
      skipBlanks fuel
    | '#' :: _ =>
      let _ ← run (· ≠ '\n')
    | _ => pure ()

/-- A text as it names the end of a document: without quotes. -/
def plainText (word : Word) : String :=
  String.join (word.map fun p => match p with | .text s _ => s | _ => "")

def isQuotedPiece : Piece → Bool
  | .text _ quoted => quoted
  | _ => false

def nameOf : Lexeme → String
  | .finished => "end of file"
  | .lineEnd => "newline"
  | .mark s | .reserved s => "\"" ++ s ++ "\""
  | .word _ => "word"
  | .redirection _ => "redirection"

/-- Complains about a part, and tells what should stand there. -/
def unexpected {α : Type} (found : Lexeme) (expected : Option String := none) : Reader α :=
  fail (nameOf found ++ " unexpected"
    ++ match expected with | some e => s!" (expecting {e})" | none => "")

def putBack (l : Lexeme) : Reader Unit := modify fun r => { r with ahead := some l }

/-- The lines of a document up to its end, and what is left behind it. -/
def documentLines (p : Pending) (done : List Char) : Nat → List Char → List Char × List Char
  | 0, s => (done, s)
  | fuel + 1, s =>
    if s.isEmpty then (done, [])
    else
      let line := s.takeWhile (· ≠ '\n')
      let lineEnd := (s.drop line.length).take 1
      let rest := s.drop (line.length + 1)
      let line := if p.dropTabs then line.dropWhile (· = '\t') else line
      if String.ofList line = p.delimiter then (done, rest)
      else documentLines p (done ++ line ++ lineEnd) fuel rest

mutual

/-- Reads what a dollar sign stands for together with what follows it. -/
def dollar (quoted : Bool) (done : List Piece) : Nat → Reader (List Piece)
  | 0 => return done
  | fuel + 1 => do
    match (← get).rest with
    | '\x7b' :: _ =>
      drop 1
      return (← braced quoted fuel) :: done
    | '(' :: '(' :: _ =>
      drop 2
      let expression ← pieces (.expression 0) [] fuel
      return .arithmetic expression quoted :: done
    | '(' :: _ =>
      drop 1
      let outer ← get
      set { outer with pending := [], inDocument := false }
      let body ← list .anything fuel
      match ← next false true fuel with
      | .mark ")" => pure ()
      | l => unexpected l (some "\")\"")
      modify fun r => { r with pending := outer.pending, inDocument := outer.inDocument }
      return .output body quoted :: done
    | c :: _ =>
      if c.isDigit || isSpecial c then
        drop 1
        return .parameter (String.singleton c) .value quoted :: done
      else if isNameChar c then return .parameter (← run isNameChar) .value quoted :: done
      else return addChar '$' quoted done
    | [] => return addChar '$' quoted done

def braced (quoted : Bool) : Nat → Reader Piece
  | 0 => fail "Missing '\x7d'"
  | fuel + 1 => do
    -- Behind a sharp there is a name to take the length of, or another parameter that nothing follows.
    let isLength :=
      match (← get).rest with
      | '#' :: c :: next :: _ => isNameChar c || (c ≠ '\x7d' && next = '\x7d')
      | '#' :: c :: _ => isNameChar c
      | _ => false
    if isLength then drop 1
    let name ←
      match ← peek with
      | some c =>
        if c.isDigit then run Char.isDigit
        else if isNameChar c then run isNameChar
        else if isSpecial c then do
          drop 1
          pure (String.singleton c)
        else pure ""
      | none => pure ""
    let close (use : ParameterUse) : Reader Piece := do
      match ← peek with
      | none => fail "Missing '\x7d'"
      | _ => drop 1
      return .parameter name use quoted
    let wordOf (isQuoted : Bool) (width : Nat) : Reader Word := do
      drop width
      pieces (.braces isQuoted) [] fuel
    let kind? (c : Char) : Option Otherwise :=
      if c = '-' then some .instead
      else if c = '=' then some .assign
      else if c = '?' then some .complain
      else if c = '+' then some .replace
      else none
    match (← get).rest with
    | '\x7d' :: _ => close (if name.isEmpty then .unknown else if isLength then .length else .value)
    | _ =>
    if isLength then
      let _ ← wordOf quoted 0
      close .unknown
    else match (← get).rest with
    | '%' :: '%' :: _ => close (.trimmed true true (← wordOf false 2))
    | '%' :: _ => close (.trimmed true false (← wordOf false 1))
    | '#' :: '#' :: _ => close (.trimmed false true (← wordOf false 2))
    | '#' :: _ => close (.trimmed false false (← wordOf false 1))
    | ':' :: c :: _ =>
      match kind? c with
      | some kind => close (.otherwise kind true (← wordOf quoted 2))
      | none =>
        let _ ← wordOf quoted 1
        close .unknown
    | c :: _ =>
      match kind? c with
      | some kind => close (.otherwise kind false (← wordOf quoted 1))
      | none =>
        let _ ← wordOf quoted 0
        close .unknown
    | [] => fail "Missing '\x7d'"

/-- Reads pieces up to the end of their setting, behind those read so far, the last of them first. -/
def pieces (setting : Setting) (done : List Piece) : Nat → Reader (List Piece)
  | 0 => return done.reverse
  | fuel + 1 => do
    let quoted := setting.isQuoted
    match (← get).rest with
    | [] =>
      let inDocument := (← get).inDocument
      if inDocument then modify fun r => { r with line := r.line + 1 }
      match setting with
      | .doubleQuotes => fail (if inDocument then "Missing '\x7d'" else "Unterminated quoted string")
      | .braces isQuoted => fail (if isQuoted && !inDocument then "Unterminated quoted string" else "Missing '\x7d'")
      | .expression _ => fail "Missing '))'"
      | _ => return done.reverse
    | c :: rest =>
      let plain : Reader (List Piece) := do
        drop 1
        pieces setting (addChar c quoted done) fuel
      if setting = .word && endsWord c then return done.reverse
      else if setting = .doubleQuotes && c = '"' then return done.reverse
      else if (setting = .braces true || setting = .braces false) && c = '\x7d' then return done.reverse
      else if c = '$' then
        drop 1
        pieces setting (← dollar quoted done fuel) fuel
      else if c = '\x60' then
        match accented [] rest with
        | none =>
          modify fun r => { r with line := r.line + rest.count '\n' }
          fail "EOF in backquote substitution"
        | some (text, behind) =>
          let outer ← get
          set { outer with rest := text, line := 1, ahead := none, pending := [], inDocument := false }
          -- What does not fit behind the commands is left out.
          let body ← list .anything fuel
          let lines := (outer.rest.take (outer.rest.length - behind.length)).count '\n'
          modify fun r =>
            { r with rest := behind, line := outer.line + lines, ahead := none, pending := outer.pending,
                     inDocument := outer.inDocument }
          pieces setting (.output body quoted :: done) fuel
      else if c = '\\' then
        match rest with
        | [] => plain
        | '\n' :: _ =>
          drop 2
          pieces setting done fuel
        | e :: _ =>
          let isEscape :=
            match setting with
            | .word | .braces false => true
            | .doubleQuotes | .expression _ => "$\x60\"\\".toList.contains e
            | .braces true => "$\x60\"\\\x7d".toList.contains e
            | .document => "$\x60\\".toList.contains e
          if isEscape then
            drop 2
            pieces setting (addChar e true done) fuel
          else plain
      else if c = '\'' && (setting = .word || setting = .braces false) then
        drop 1
        let s ← singleQuoted
        pieces setting (.text s true :: done) fuel
      else if c = '"' && (setting = .word || setting = .braces false || setting = .braces true) then
        drop 1
        let inner ← pieces .doubleQuotes [] fuel
        drop 1
        pieces setting (if inner.isEmpty then .text "" true :: done else inner.reverse ++ done) fuel
      else
        match setting with
        | .expression depth =>
          if c = '(' then
            drop 1
            pieces (.expression (depth + 1)) (addChar c quoted done) fuel
          else if c = ')' then
            match depth, rest with
            | depth + 1, _ =>
              drop 1
              pieces (.expression depth) (addChar c quoted done) fuel
            | 0, ')' :: _ =>
              drop 2
              return done.reverse
            | 0, _ => plain
          else plain
        | _ => plain

/-- Reads the next part. Line ends are skipped and reserved words known only where that is asked for. -/
def next (skipLines keywords : Bool) : Nat → Reader Lexeme
  | 0 => return .finished
  | fuel + 1 => do
    let r ← get
    set { r with ahead := none }
    let found ←
      match r.ahead with
      | some l => pure l
      | none => do
        skipBlanks fuel
        let rest := (← get).rest
        match redirectionAt rest, markAt rest with
        | some (l, n), _ =>
          drop n
          pure l
        | none, some (l, n) =>
          drop n
          pure l
        | none, none => pure (.word (← pieces .word [] fuel))
    match found with
    | .lineEnd =>
      if skipLines then
        readDocuments fuel
        next skipLines keywords fuel
      else return .lineEnd
    | .word [.text s false] => return if keywords && reservedWords.contains s then .reserved s else found
    | l => return l

/-- Reads the texts of redirections that are mentioned in the line before. -/
def readDocuments : Nat → Reader Unit
  | 0 => pure ()
  | fuel + 1 => do
    let r ← get
    match r.pending with
    | [] => pure ()
    | p :: more =>
      let (text, rest) := documentLines p [] (r.rest.length + 1) r.rest
      let lines := (r.rest.take (r.rest.length - rest.length)).count '\n'
      let word ←
        if p.isLive then do
          set { r with rest := text, pending := [], ahead := none, inDocument := true }
          pieces .document [] fuel
        else pure [.text (String.ofList text) true]
      modify fun s =>
        { s with rest, line := r.line + lines, ahead := r.ahead, pending := more, inDocument := false,
                 documents := (p.number, word) :: s.documents }
      readDocuments fuel

def redirectionWord (opened : Opened) : Nat → Reader Redirection
  | 0 => fail "redirection unexpected"
  | fuel + 1 => do
    match ← next false false fuel with
    | .word word =>
      match opened.opening with
      | .document _ =>
        let r ← get
        let p : Pending := ⟨r.count, plainText word, opened.dropTabs, !word.any isQuotedPiece⟩
        set { r with pending := r.pending ++ [p], count := r.count + 1 }
        return .mk opened.number (.document p.number) []
      | opening => return .mk opened.number opening word
    | l => unexpected l

def redirections (done : List Redirection) : Nat → Reader (List Redirection)
  | 0 => return done.reverse
  | fuel + 1 => do
    match ← next false true fuel with
    | .redirection opened => redirections ((← redirectionWord opened fuel) :: done) fuel
    | l =>
      putBack l
      return done.reverse

/-- Reads a command of words and redirections, behind those read so far. -/
def simple (line : Nat) (words : List Word) (redirects : List Redirection) : Nat → Reader Command
  | 0 => return .simple line words.reverse redirects.reverse
  | fuel + 1 => do
    match ← next false false fuel with
    | .word word => simple line (word :: words) redirects fuel
    | .redirection opened => simple line words ((← redirectionWord opened fuel) :: redirects) fuel
    | l =>
      match l, words, redirects with
      | .mark "(", [name], [] =>
        if (assignment? name).isSome then
          putBack l
          return .simple line [name] []
        match ← next false false fuel with
        | .mark ")" => pure ()
        | l => unexpected l (some "\")\"")
        let name := plainText name
        if !isName name then fail "Bad function name"
        putBack (← next true true fuel)
        return .define name (← command fuel)
      | _, _, _ =>
        putBack l
        return .simple line words.reverse redirects.reverse

def loopWords (done : List Word) : Nat → Reader (List Word)
  | 0 => return done.reverse
  | fuel + 1 => do
    match ← next false false fuel with
    | .word word => loopWords (word :: done) fuel
    | .lineEnd =>
      readDocuments fuel
      return done.reverse
    | .mark ";" => return done.reverse
    | l => unexpected l

/-- Reads the rest of a branch behind its first mark, up to its end. -/
def branch : Nat → Reader Command
  | 0 => fail "\"if\" unexpected"
  | fuel + 1 => do
    let condition ← list .body fuel
    expect "then" fuel
    let body ← list .body fuel
    match ← next false true fuel with
    | .reserved "elif" => return .branch condition body (← branch fuel)
    | .reserved "else" => return .branch condition body (← list .body fuel)
    | l =>
      putBack l
      return .branch condition body (.sequence [])

/-- Reads the patterns of a case. Whatever stands where a pattern should is one; only what follows it is looked
at. -/
def patterns (first : Lexeme) (done : List Word) : Nat → Reader (List Word)
  | 0 => return done.reverse
  | fuel + 1 => do
    let word :=
      match first with
      | .word word => word
      | .reserved s => [.text s false]
      | _ => []
    match ← next false true fuel with
    | .mark "|" => patterns (← next false false fuel) (word :: done) fuel
    | .mark ")" => return (word :: done).reverse
    | l => unexpected l (some "\")\"")

/-- Reads cases up to the end of their command. -/
def cases (done : List (List Word × Command)) : Nat → Reader (List (List Word × Command))
  | 0 => return done.reverse
  | fuel + 1 => do
    match ← next true true fuel with
    | .reserved "esac" => return done.reverse
    | first =>
      let first ←
        match first with
        | .mark "(" => next false false fuel
        | l => pure l
      let found ← patterns first [] fuel
      let body ← list .anything fuel
      let done := (found, body) :: done
      match ← next true true fuel with
      | .reserved "esac" => return done.reverse
      | .mark ";;" => cases done fuel
      | l => unexpected l (some "\";;\"")

def expect (s : String) : Nat → Reader Unit
  | 0 => pure ()
  | fuel + 1 => do
    match ← next false true fuel with
    | .reserved t => if t ≠ s then unexpected (.reserved t) (some s!"\"{s}\"")
    | l => unexpected l (some s!"\"{s}\"")

def command : Nat → Reader Command
  | 0 => fail "end of file unexpected"
  | fuel + 1 => do
    let first ← next false true fuel
    let line := (← get).line
    let body : Option Command ←
      match first with
      | .reserved "if" => do
        let c ← branch fuel
        expect "fi" fuel
        pure (some c)
      | .reserved "while" | .reserved "until" => do
        let condition ← list .body fuel
        expect "do" fuel
        let body ← list .body fuel
        expect "done" fuel
        let isUntil := match first with | .reserved "until" => true | _ => false
        pure (some (.loop isUntil condition body))
      | .reserved "for" => do
        let name ←
          match ← next false false fuel with
          | .word [.text s false] => if isName s then pure s else fail "Bad for loop variable"
          | _ => fail "Bad for loop variable"
        let words ←
          match ← next true true fuel with
          | .reserved "in" => do pure (some (← loopWords [] fuel))
          | .mark ";" => pure none
          | l => do
            putBack l
            pure none
        match ← next true true fuel with
        | .reserved "do" => pure ()
        | l => unexpected l (some "\"do\"")
        let body ← list .body fuel
        expect "done" fuel
        pure (some (.each line name words body))
      | .reserved "case" => do
        let word ←
          match ← next false false fuel with
          | .word word => pure word
          | l => unexpected l (some "word")
        match ← next true true fuel with
        | .reserved "in" => pure ()
        | l => unexpected l (some "\"in\"")
        pure (some (.select line word (← cases [] fuel)))
      | .mark "(" => do
        let c ← list .body fuel
        match ← next false true fuel with
        | .mark ")" => pure ()
        | l => unexpected l (some "\")\"")
        pure (some (.subshell c))
      | .reserved "\x7b" => do
        let c ← list .body fuel
        expect "\x7d" fuel
        pure (some c)
      | .word _ | .redirection _ => pure none
      | l => unexpected l
    match body with
    | none =>
      putBack first
      simple line [] [] fuel
    | some c =>
      match ← redirections [] fuel with
      | [] => return c
      | found => return .redirected c found

/-- Reads commands with pipes between them, behind those read so far. -/
def pipes (done : List Command) : Nat → Reader (List Command)
  | 0 => return done.reverse
  | fuel + 1 => do
    let done := (← command fuel) :: done
    match ← next false true fuel with
    | .mark "|" =>
      putBack (← next true true fuel)
      pipes done fuel
    | l =>
      putBack l
      return done.reverse

def pipeline : Nat → Reader Command
  | 0 => fail "end of file unexpected"
  | fuel + 1 => do
    let isNegated ←
      match ← next false true fuel with
      | .reserved "!" => pure true
      | l => do
        putBack l
        pure false
    if isNegated then putBack (← next false true fuel)
    let c ←
      match ← pipes [] fuel with
      | [c] => pure c
      | cs => pure (.pipeline cs)
    return if isNegated then .negated c else c

/-- Reads pipes with the marks for "and" and "or" between them, behind what was read so far. -/
def chain (first : Command) : Nat → Reader Command
  | 0 => return first
  | fuel + 1 => do
    match ← next false true fuel with
    | .mark "&&" =>
      putBack (← next true true fuel)
      let second ← pipeline fuel
      chain (.both first second) fuel
    | .mark "||" =>
      putBack (← next true true fuel)
      let second ← pipeline fuel
      chain (.either first second) fuel
    | l =>
      putBack l
      return first

/-- Reads a list of commands, behind those read so far. -/
def listFrom (extent : Extent) (isFirst : Bool) (done : List Command) : Nat → Reader Command
  | 0 => return .sequence done.reverse
  | fuel + 1 => do
    let finish : Reader Command := return .sequence done.reverse
    let l ← next (extent ≠ .line) true fuel
    let endsList : Bool :=
      match l with
      | .mark ")" | .mark ";;" => true
      | .reserved s => ["then", "do", "done", "elif", "else", "fi", "esac", "\x7d"].contains s
      | _ => false
    match l with
    | .lineEnd =>
      readDocuments fuel
      finish
    | .finished =>
      readDocuments fuel
      putBack l
      finish
    | _ =>
      putBack l
      if endsList && extent ≠ .line && (extent = .anything || !isFirst) then finish
      else
        let c ← chain (← pipeline fuel) fuel
        match ← next false true fuel with
        | .mark "&" => listFrom extent false (.background c :: done) fuel
        | .mark ";" => listFrom extent false (c :: done) fuel
        | .lineEnd =>
          putBack .lineEnd
          listFrom extent false (c :: done) fuel
        | l =>
          match l with
          | .finished => readDocuments fuel
          | _ => if extent = .line then unexpected l
          putBack l
          return .sequence (c :: done).reverse

def list (extent : Extent) : Nat → Reader Command
  | 0 => return .sequence []
  | fuel + 1 => listFrom extent true [] fuel

end

end Reader

/-- Reads one line of a script with all that belongs to it; nothing at the end of the script. At most `steps` steps
are made. -/
def readLine (steps : Nat) (r : Reading) : Except Flaw (Option (Command × Reading)) :=
  if r.rest.isEmpty then .ok none
  else (Reader.list .line steps { r with ahead := none }).map some

end Stemcell.Rehearsal.Machine
