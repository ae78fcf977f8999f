import Stemcell.Rehearsal.Machine.Regex
import Stemcell.Rehearsal.Machine.Tool.Lines
/-!
A tool that edits a text line by line with a list of commands, each of them for some of the lines.
-/
namespace Stemcell.Rehearsal.Machine.Tool

open Failure (SystemCode)

namespace Edit

/-- Which lines a command is for. -/
inductive Address where
  | line (n : Nat)
  | last
  | pattern (r : Regex) (anyCase : Bool)
  /-- The first of two numbers, and each line that is a multiple of the other further on. -/
  | step (first stride : Nat)
  /-- So many lines behind the first of a range. -/
  | behind (n : Nat)
  deriving Repr

/-- A part of what takes the place of a match. -/
inductive Part where
  | text (s : String)
  | group (n : Nat)
  | letters (kind : Char)
  deriving Repr

inductive Action where
  | substitute (r : Regex) (anyCase : Bool) (parts : List Part) (isGlobal : Bool) (count : Nat) (prints : Bool)
  | translate (pairs : List (Char × Char))
  | plain (letter : Char) (text : String)
  | group (size : Nat)
  deriving Repr

/-- A command, with how many of those behind it belong to it. -/
structure Command where
  first : Option Address := none
  second : Option Address := none
  isNegated : Bool := false
  action : Action
  deriving Repr

/-- A step of reading commands; an error has its words. -/
abbrev Reader (α : Type) := StateT (List Char) (Except String) α

def skip (p : Char → Bool) : Reader Unit := modify (List.dropWhile p)

def number : Reader (Option Nat) := do
  let digits := (← get).takeWhile Char.isDigit
  modify (List.drop digits.length)
  return decimal? (String.ofList digits)

/-- Where a character of an expression stands: outside brackets, as the first inside them, behind a caret there, or
further on. -/
inductive Spot where
  | outside
  | opened
  | negated
  | inside
  deriving DecidableEq

def Spot.next (spot : Spot) (c : Char) : Spot :=
  match spot with
  | .outside => if c = '[' then .opened else .outside
  | .opened => if c = '^' then .negated else .inside
  | .negated => .inside
  | .inside => if c = ']' then .outside else .inside

/-- The text up to a mark, in which the mark may stand behind a backslash or, in a pattern, between brackets. -/
def upTo (mark : Char) (isPattern : Bool) (done : List Char) (spot : Spot) : List Char → Option (List Char × List Char)
  | [] => none
  | '\\' :: c :: rest =>
    if spot ≠ .outside then upTo mark isPattern (c :: '\\' :: done) ((spot.next '\\').next c) rest
    else upTo mark isPattern (if c = mark then c :: done else c :: '\\' :: done) spot rest
  | c :: rest =>
    if c = mark && spot = .outside then some (done.reverse, rest)
    else upTo mark isPattern (c :: done) (if isPattern then spot.next c else spot) rest

def expression (isExtended : Bool) (mark : Char) : Reader Regex := do
  match upTo mark true [] .outside (← get) with
  | none => throw "unterminated address regex"
  | some (text, rest) =>
    set rest
    match Regex.read isExtended (String.ofList text) with
    | .ok r => return r
    | .error message => throw message

/-- A letter behind an expression that says that case does not count. -/
def caseMark : Reader Bool := do
  match ← get with
  | 'I' :: rest =>
    set rest
    return true
  | _ => return false

def address (isExtended : Bool) : Reader (Option Address) := do
  match ← get with
  | '$' :: rest =>
    set rest
    return some .last
  | '/' :: rest =>
    set rest
    let r ← expression isExtended '/'
    return some (.pattern r (← caseMark))
  | '\\' :: mark :: rest =>
    set rest
    let r ← expression isExtended mark
    return some (.pattern r (← caseMark))
  | '+' :: rest =>
    set rest
    return (← number).map .behind
  | c :: _ =>
    if c.isDigit then
      let n := (← number).getD 0
      match ← get with
      | '~' :: rest =>
        set rest
        return some (.step n ((← number).getD 0))
      | _ => return some (.line n)
    else return none
  | [] => return none

/-- The parts of what takes the place of a match. -/
def partsOf : Nat → List Char → List Part
  | 0, _ => []
  | fuel + 1, s =>
    let add (t : String) (rest : List Part) : List Part :=
      match rest with
      | .text u :: more => .text (t ++ u) :: more
      | _ => .text t :: rest
    match s with
    | [] => []
    | '&' :: rest => .group 0 :: partsOf fuel rest
    | '\\' :: c :: rest =>
      if c.isDigit then .group (c.toNat - '0'.toNat) :: partsOf fuel rest
      else if c = 'n' then add "\n" (partsOf fuel rest)
      else if c = 't' then add "\t" (partsOf fuel rest)
      else if "ULEul".toList.contains c then .letters c :: partsOf fuel rest
      else add (String.singleton c) (partsOf fuel rest)
    | c :: rest => add (String.singleton c) (partsOf fuel rest)

/-- The characters of a text in which a mark may be escaped. -/
def plainChars : List Char → List Char
  | '\\' :: 'n' :: rest => '\n' :: plainChars rest
  | '\\' :: '\\' :: rest => '\\' :: plainChars rest
  | c :: rest => c :: plainChars rest
  | [] => []

/-- The letters behind a substitution. -/
def flags (isGlobal : Bool) (count : Nat) (prints anyCase : Bool) : Nat → Reader (Bool × Nat × Bool × Bool)
  | 0 => return (isGlobal, count, prints, anyCase)
  | fuel + 1 => do
    match ← get with
    | 'g' :: rest =>
      set rest
      flags true count prints anyCase fuel
    | 'p' :: rest =>
      set rest
      flags isGlobal count true anyCase fuel
    | 'i' :: rest | 'I' :: rest =>
      set rest
      flags isGlobal count prints true fuel
    | c :: _ =>
      if c.isDigit then
        let n := (← number).getD 1
        flags isGlobal n prints anyCase fuel
      else return (isGlobal, count, prints, anyCase)
    | [] => return (isGlobal, count, prints, anyCase)

/-- Goes behind the end of a command. -/
def finish : Reader Unit := do
  skip fun c => c = ' ' || c = '\t'
  match ← get with
  | [] | '\x7d' :: _ => pure ()
  | c :: rest =>
    if c = ';' || c = '\n' then set rest
    else if c = '#' then skip (· ≠ '\n')
    else throw "extra characters after command"

def textOf : Reader String := do
  skip fun c => c = ' ' || c = '\t'
  match ← get with
  | '\\' :: '\n' :: rest => set rest
  | '\\' :: rest => set rest
  | _ => pure ()
  let line := (← get).takeWhile (· ≠ '\n')
  modify fun s => s.drop (line.length + 1)
  return String.ofList line

/-- The complaint about a group without an end, but for its last character. -/
def unclosed : String := "unmatched \x60\x7b"

/-- The greatest number of a group in what takes the place of a match. -/
def greatestGroup (parts : List Part) : Nat :=
  parts.foldl (fun most part => match part with | .group n => max most n | _ => most) 0

/-- How many groups the text of an expression opens. -/
def groupCount (isExtended : Bool) : List Char → Nat
  | '\\' :: c :: rest => (if c = '(' && !isExtended then 1 else 0) + groupCount isExtended rest
  | c :: rest => (if c = '(' && isExtended then 1 else 0) + groupCount isExtended rest
  | [] => 0

/-- Reads commands up to the end of their group. -/
def commands (isExtended isInner : Bool) : Nat → Reader (List Command)
  | 0 => return []
  | fuel + 1 => do
    skip fun c => c = ' ' || c = '\t' || c = ';' || c = '\n'
    match ← get with
    | [] => if isInner then throw (unclosed ++ "'") else return []
    | '#' :: _ =>
      skip (· ≠ '\n')
      commands isExtended isInner fuel
    | '\x7d' :: rest =>
      if isInner then
        set rest
        return []
      else throw "unexpected \x60\x7d'"
    | _ =>
      let first ← address isExtended
      let second ←
        match first, ← get with
        | some _, ',' :: rest => do
          set rest
          skip (· = ' ')
          match ← address isExtended with
          | some a => pure (some a)
          | none => throw "unexpected \x60,'"
        | _, _ => pure none
      skip (· = ' ')
      let isNegated := (← get).head? = some '!'
      if isNegated then skip fun c => c = '!' || c = ' '
      match ← get with
      | [] => throw "missing command"
      | c :: rest =>
        set rest
        let whole (action : Action) : Command := { first, second, isNegated, action }
        if c = 's' then
          let mark := rest.headD '/'
          set (rest.drop 1)
          match upTo mark true [] .outside (← get) with
          | none => throw "unterminated \x60s' command"
          | some (text, rest) =>
            match upTo mark false [] .outside rest with
            | none => throw "unterminated \x60s' command"
            | some (replacement, rest) =>
              set rest
              let (isGlobal, count, prints, anyCase) ← flags false 1 false false (rest.length + 1)
              match ← get with
              | d :: _ => if !" \t\n;\x7d#".toList.contains d then throw "unknown option to \x60s'"
              | [] => pure ()
              finish
              match Regex.read isExtended (String.ofList text) with
              | .error message => throw message
              | .ok r =>
                let parts := partsOf (replacement.length + 1) replacement
                let most := greatestGroup parts
                if groupCount isExtended text < most then
                  throw (s!"invalid reference \\{most} on " ++ "\x60s' command's RHS")
                return whole (.substitute r anyCase parts isGlobal count prints) :: (← commands isExtended isInner fuel)
        else if c = 'y' then
          let mark := rest.headD '/'
          match upTo mark false [] .outside (rest.drop 1) with
          | none => throw "unterminated \x60y' command"
          | some (before, more) =>
            match upTo mark false [] .outside more with
            | none => throw "unterminated \x60y' command"
            | some (after, more) =>
              set more
              finish
              let before := plainChars before
              let after := plainChars after
              if before.length ≠ after.length then throw "strings for \x60y' command are different lengths"
              return whole (.translate (before.zip after)) :: (← commands isExtended isInner fuel)
        else if c = '\x7b' then
          let inner ← commands isExtended true fuel
          return whole (.group inner.length) :: inner ++ (← commands isExtended isInner fuel)
        else if c = 'a' || c = 'i' || c = 'c' then
          if rest.all Char.isWhitespace then throw "expected \\ after \x60a', \x60c' or \x60i'"
          let text ← textOf
          return whole (.plain c text) :: (← commands isExtended isInner fuel)
        else if "pdqQ=nNGHghxDPl".toList.contains c then
          let count ← if c = 'q' || c = 'Q' then do
              skip (· = ' ')
              number
            else pure none
          finish
          return whole (.plain c ((count.map toString).getD "")) :: (← commands isExtended isInner fuel)
        else throw s!"unknown command: \x60{String.singleton c}'"

/-- A text in capitals, in small letters, or as it is. -/
def inCase (kind : Char) (s : List Char) : List Char :=
  if kind = 'U' then s.map Char.toUpper else if kind = 'L' then s.map Char.toLower else s

def replacement (p q : Regex.Place) (mode : Char) (once : Char) : List Part → List Char
  | [] => []
  | part :: rest =>
    let put (s : List Char) : List Char :=
      let s := inCase mode s
      let s := match s with | c :: more => inCase once.toUpper [c] ++ more | [] => []
      s ++ replacement p q mode (if s.isEmpty then once else 'E') rest
    match part with
    | .text s => put s.toList
    | .group 0 => put (p.after.take (q.offset - p.offset))
    | .group n => put ((q.groups.lookup n).getD [])
    | .letters kind => if kind.isUpper then replacement p q kind once rest else replacement p q mode kind rest

/-- A line with matches replaced from one of them on, and how many matches there were; `done` is what comes before,
reversed. -/
def substituted (anyCase : Bool) (r : Regex) (parts : List Part) (isGlobal : Bool) (count : Nat) (seen : Nat)
    (afterMatch : Bool) (done : List Char) : Nat → Regex.Place → List Char × Nat
  | 0, p => (done.reverse ++ p.after, seen)
  | fuel + 1, p =>
    match Regex.search? anyCase r p with
    | none => (done.reverse ++ p.after, seen)
    | some (first, last) =>
      let between := p.after.take (first.offset - p.offset)
      let size := last.offset - first.offset
      let isVoid := size = 0 && afterMatch && first.offset = p.offset
      let seen := if isVoid then seen else seen + 1
      let isWanted := !isVoid && (seen = count || (isGlobal && count ≤ seen))
      let put := if isWanted then replacement first last 'E' 'E' parts else first.after.take size
      let done := put.reverse ++ (between.reverse ++ done)
      if isWanted && !isGlobal then (done.reverse ++ last.after, seen)
      else if size = 0 then
        match last.after with
        | [] => (done.reverse, seen)
        | c :: _ => substituted anyCase r parts isGlobal count seen false (c :: done) fuel (last.skip 1)
      else substituted anyCase r parts isGlobal count seen true done fuel { last with groups := [] }

/-- What goes on while lines are edited. -/
structure State where
  line : String := ""
  held : String := ""
  /-- Where ranges were entered, and the line where they end if that is known. -/
  ranges : List (Nat × Nat) := []
  number : Nat := 0
  rest : List String := []
  written : List String := []
  /-- What is to be written behind the line. -/
  queue : List String := []
  /-- Whether the line is done with, and not to be written. -/
  isDropped : Bool := false
  isDone : Bool := false
  quits : Bool := false
  status : Int := 0

def Address.holds (s : State) : Address → Bool
  | .line n => s.number = n
  | .last => s.rest.isEmpty
  | .pattern r anyCase => (Regex.find? anyCase r s.line).isSome
  | .step first stride => if stride = 0 then s.number = first else first ≤ s.number && (s.number - first) % stride = 0
  | .behind _ => false

/-- Whether a command is for a line, and how ranges go on. -/
def Command.applies (c : Command) (place : Nat) (s : State) : Bool × State :=
  match c.first, c.second with
  | none, _ => (!c.isNegated, s)
  | some a, none => (a.holds s != c.isNegated, s)
  | some a, some b =>
    let leave (s : State) : State := { s with ranges := s.ranges.filter (·.1 ≠ place) }
    match s.ranges.lookup place with
    | some start =>
      let ends : Bool :=
        match b with
        | .line n => n ≤ s.number
        | .behind n => start + n ≤ s.number
        | b => b.holds s
      let isPast : Bool := match b with | .line n => n < s.number | _ => false
      (!isPast != c.isNegated, if ends then leave s else s)
    | none =>
      if a.holds s then
        let isSingle : Bool := match b with | .line n => n ≤ s.number | .behind n => n = 0 | _ => false
        (!c.isNegated, if isSingle then s else { s with ranges := (place, s.number) :: s.ranges })
      else (c.isNegated, s)

def State.write (s : State) (line : String) : State := { s with written := line :: s.written }

def plain (isQuiet : Bool) (letter : Char) (text : String) (isRangeEnd : Bool) (s : State) : State :=
  match letter with
  | 'p' => s.write s.line
  | 'd' => { s with isDropped := true, isDone := true }
  | 'q' => { s with isDone := true, quits := true, status := ((decimal? text).getD 0 : Nat) }
  | 'Q' => { s with isDone := true, isDropped := true, quits := true, status := ((decimal? text).getD 0 : Nat) }
  | '=' => s.write (toString s.number)
  | 'a' => { s with queue := s.queue ++ [text] }
  | 'i' => s.write text
  | 'c' => { if isRangeEnd then s.write text else s with isDropped := true, isDone := true }
  | 'n' =>
    match s.rest with
    | [] => { s with isDone := true, quits := true }
    | next :: rest =>
      let s := if isQuiet then s else s.write s.line
      { s with line := next, rest, number := s.number + 1 }
  | 'N' =>
    match s.rest with
    | [] => { s with isDone := true, quits := true }
    | next :: rest => { s with line := s.line ++ "\n" ++ next, rest, number := s.number + 1 }
  | 'h' => { s with held := s.line }
  | 'H' => { s with held := s.held ++ "\n" ++ s.line }
  | 'g' => { s with line := s.held }
  | 'G' => { s with line := s.line ++ "\n" ++ s.held }
  | 'x' => { s with line := s.held, held := s.line }
  | 'P' => s.write (String.ofList (s.line.toList.takeWhile (· ≠ '\n')))
  | _ => s

def apply (isQuiet : Bool) : Nat → Nat → List Command → State → State
  | 0, _, _, s => s
  | _, _, [], s => s
  | fuel + 1, place, c :: rest, s =>
    if s.isDone then s
    else
      let (applies, s) := c.applies place s
      match c.action with
      | .group size =>
        if applies then apply isQuiet fuel (place + 1) rest s
        else apply isQuiet fuel (place + 1 + size) (rest.drop size) s
      | .substitute r anyCase parts isGlobal count prints =>
        if applies then
          let start : Regex.Place := { before := [], after := s.line.toList }
          let (line, seen) := substituted anyCase r parts isGlobal count 0 false [] (s.line.length + 2) start
          let s := { s with line := String.ofList line }
          apply isQuiet fuel (place + 1) rest (if prints && count ≤ seen then s.write s.line else s)
        else apply isQuiet fuel (place + 1) rest s
      | .translate pairs =>
        let line := String.ofList (s.line.toList.map fun c => (pairs.lookup c).getD c)
        apply isQuiet fuel (place + 1) rest (if applies then { s with line } else s)
      | .plain letter text =>
        let isRangeEnd := c.second.isNone || (s.ranges.lookup place).isNone || s.rest.isEmpty
        apply isQuiet fuel (place + 1) rest (if applies then plain isQuiet letter text isRangeEnd s else s)

/-- Edits line after line. -/
def run (isQuiet : Bool) (commands : List Command) : Nat → State → State
  | 0, s => s
  | fuel + 1, s =>
    match s.rest with
    | [] => s
    | line :: rest =>
      let s := { s with line, rest, number := s.number + 1, isDone := false, isDropped := false, queue := [] }
      let s := apply isQuiet (commands.length + 1) 0 commands s
      let s := if isQuiet || s.isDropped then s else s.write s.line
      let s := s.queue.foldl State.write s
      if s.quits then s else run isQuiet commands fuel s

end Edit

/-- Edits texts. -/
def sed (call : Call) : ToolResult :=
  let known : List Choice :=
    [⟨'n', "quiet", false⟩, ⟨'e', "expression", true⟩, ⟨'E', "regexp-extended", false⟩, ⟨'r', "", false⟩,
      ⟨'s', "separate", false⟩, ⟨'u', "unbuffered", false⟩, ⟨'f', "file", true⟩, ⟨'i', "in-place", false⟩]
  call.choosing known fun c =>
    let given := (c.options.filter (·.1 = 'e')).map Prod.snd
    let (scripts, paths) := if given.isEmpty then (c.rest.take 1, c.rest.drop 1) else (given, c.rest)
    if scripts.isEmpty then
      .refusal 1 s!"Usage: {call.name} [OPTION]... \x7bscript-only-if-no-other-script\x7d [input-file]..."
    else
      let text := Text.join "\n" scripts
      match (Edit.commands (c.has 'E' || c.has 'r') false (4 * text.length + 4)).run text.toList with
      | .error message =>
        let place := if message = Edit.unclosed ++ "'" then 0 else text.length
        call.refuse s!"-e expression #1, char {place}: {message}"
      | .ok (commands, _) =>
        let edit (text : String) : String × Int × Bool :=
          let lines := linesOf text
          let s := Edit.run (c.has 'n') commands (lines.length + 1) { rest := lines }
          let isCut := !text.isEmpty && !text.endsWith "\n" && s.rest.isEmpty
          let out := ofLines s.written.reverse
          (if isCut && out.endsWith "\n" then (out.dropEnd 1).toString else out, s.status, s.quits)
        let failed (path : String) (code : SystemCode) : String :=
          if code = .isDirectory && c.has 'i' then s!"{call.name}: couldn't edit {path}: not a regular file"
          else if code = .isDirectory then s!"{call.name}: read error on {path}: {code.words}"
          else s!"{call.name}: can't read {path}: {code.words}"
        let (texts, messages) := call.sources failed paths
        if c.has 'i' then
          let files := texts.foldl (fun files t =>
            match Disk.way files (readable t.1) with
            | .ok way => Disk.put files way (.file (bytesOf (edit t.2).1))
            | .error _ => files) call.files
          { (({} : ToolResult).complaining messages) with
            files := some files, status := if messages.isEmpty then 0 else 4 }
        else
          let (out, status, quits) := edit (String.join (texts.map Prod.snd))
          { (ToolResult.ofText out).complaining messages with
            status := if messages.isEmpty then status else 2
            takesInput := paths.isEmpty || paths.contains "-", stops := quits }

end Stemcell.Rehearsal.Machine.Tool
