import Stemcell.Rehearsal.Machine.Disk
/-!
Tools: small programs, each a function from what it is given to what it does. Their options are letters behind a
dash or words behind two.
-/
namespace Stemcell.Rehearsal.Machine

open Failure (SystemCode)

/-- What a tool is given. -/
structure Call where
  name : String
  arguments : List String
  environ : List (String × String) := []
  input : String := ""
  files : Files := {}

/-- What a tool did. -/
structure ToolResult where
  status : Int := 0
  /-- What it wrote in order, as output or as complaints. -/
  written : List (Bool × String) := []
  /-- The millionths of a second that it took. -/
  time : Nat := 0
  files : Option Files := none
  takesInput : Bool := false
  /-- Whether it would have stopped in front of the end. -/
  stops : Bool := false
  /-- Whether it goes on without an end. -/
  isEndless : Bool := false
  deriving Inhabited

namespace ToolResult

def ofText (s : String) : ToolResult := { written := [(false, s)] }

def ofLines (lines : List String) : ToolResult := ofText (Machine.ofLines lines)

/-- Writes names with a line end behind each, or with a character that no name holds. -/
def ofNames (isZero : Bool) (names : List String) : ToolResult :=
  ofText (String.join (names.map (· ++ if isZero then "\x00" else "\n")))

/-- Complains, and does nothing else. -/
def refusal (status : Int) (message : String) : ToolResult := { status, written := [(true, message ++ "\n")] }

/-- A result that also complains; then its status is at least one. -/
def complaining (result : ToolResult) (messages : List String) : ToolResult :=
  if messages.isEmpty then result
  else
    { result with
      status := if result.status = 0 then 1 else result.status
      written := messages.map (fun m => (true, m ++ "\n")) ++ result.written }

end ToolResult

/-- The advice behind complaints about how a tool is called. -/
def Call.advice (call : Call) : String := s!"Try '{call.name} --help' for more information."

def Call.usage (call : Call) (message : String) (status : Int := 1) : ToolResult :=
  .refusal status s!"{call.name}: {message}\n{call.advice}"

/-- Complains under the name of a tool. -/
def Call.refuse (call : Call) (message : String) (status : Int := 1) : ToolResult :=
  .refusal status s!"{call.name}: {message}"

/-- The name of a file as complaints show it: between quotes if it could be misread. -/
def shownName (path : String) : String :=
  wordFor false path

def quotedName (path : String) : String := wordFor true path

/-- What a file or, for a dash, the input holds. -/
def Call.read (call : Call) (path : String) : Except SystemCode String := do
  if path = "-" || path = "/dev/stdin" then return call.input
  else
    let way ← Disk.way call.files (readable path)
    match call.files.root.at? way with
    | some (.directory _) => throw .isDirectory
    | some _ => return ofBytes (Disk.contents call.files way)
    | none => throw .noEntry

/-- How a tool usually complains about a file. -/
def Call.usual (call : Call) (path : String) (code : SystemCode) : String :=
  s!"{call.name}: {shownName path}: {code.words}"

/-- What the files at some paths hold, with their names, and the complaints about the others. Without a path it is
the input. -/
def Call.sources (call : Call) (complain : String → SystemCode → String) (paths : List String) :
    List (String × String) × List String :=
  let paths := if paths.isEmpty then ["-"] else paths
  let read := paths.map fun path => (path, call.read path)
  (read.filterMap fun (path, r) => match r with | .ok text => some (path, text) | .error _ => none,
    read.filterMap fun (path, r) => match r with | .ok _ => none | .error code => some (complain path code))

/-- Does something with what the files at some paths hold one after the other, and complains about the others. -/
def Call.withText (call : Call) (paths : List String) (act : String → ToolResult) : ToolResult :=
  let (texts, messages) := call.sources call.usual paths
  { (act (String.join (texts.map Prod.snd))).complaining messages with
    takesInput := paths.isEmpty || paths.contains "-" }

/-! ### Options -/

/-- An option that a tool knows. -/
structure Choice where
  letter : Char
  word : String := ""
  takesValue : Bool := false

/-- The options and the other arguments of a tool. -/
structure Choices where
  options : List (Char × String) := []
  rest : List String := []

/-- A text in which line ends and the characters that no name holds have changed places. -/
def exchanged (s : String) : String :=
  s.map fun c => if c = '\n' then '\x00' else if c = '\x00' then '\n' else c

namespace Choices

def has (c : Choices) (letter : Char) : Bool := c.options.any (·.1 = letter)

/-- Changes a text line by line, where the option `z` makes lines end in a character that no name holds. -/
def byRecord (c : Choices) (change : String → String) (text : String) : String :=
  if c.has 'z' then exchanged (change (exchanged text)) else change text

def value? (c : Choices) (letter : Char) : Option String :=
  (c.options.reverse.find? (·.1 = letter)).map Prod.snd

/-- Reads the letters of one argument; true if the next argument is the value of the last of them. -/
def letters (known : List Choice) : List Char → Except String (List (Char × String) × Bool)
  | [] => .ok ([], false)
  | c :: more => do
    match known.find? (·.letter = c) with
    | none => throw s!"invalid option -- '{String.singleton c}'"
    | some choice =>
      if choice.takesValue then
        if more.isEmpty then return ([(c, "")], true) else return ([(c, String.ofList more)], false)
      else
        let (options, needsValue) ← letters known more
        return ((c, "") :: options, needsValue)

/-- The choice with a word, or the only one whose word starts so. -/
def named (known : List Choice) (word : String) : Except String Choice :=
  match known.find? (·.word = word) with
  | some choice => .ok choice
  | none =>
    match known.filter fun c => word.toList.isPrefixOf c.word.toList with
    | [choice] => .ok choice
    | [] => .error s!"unrecognized option '--{word}'"
    | several =>
      let words := several.map fun c => "'--" ++ c.word ++ "'"
      .error (s!"option '--{word}' is ambiguous; possibilities: " ++ Text.join " " words)

/-- An option whose value is still to come, and what to complain if it does not. -/
structure Awaited where
  letter : Char
  complaint : String

/-- Reads the arguments of a tool: options may stand between the others, up to two dashes alone, or, if `isStrict`,
only in front of them. -/
def readFrom (known : List Choice) (isStrict : Bool) (awaited : Option Awaited) (done : Choices) :
    List String → Except String Choices
  | [] => match awaited with | some a => .error a.complaint | none => .ok done
  | argument :: rest =>
    let take (options : List (Char × String)) : Choices := { done with options := done.options ++ options }
    match awaited, argument.toList with
    | some a, _ => readFrom known isStrict none (take [(a.letter, argument)]) rest
    | none, ['-', '-'] => .ok { done with rest := done.rest ++ rest }
    | none, '-' :: '-' :: more =>
      let word := String.ofList (more.takeWhile (· ≠ '='))
      match named known word, more.drop word.length with
      | .error message, _ => .error message
      | .ok choice, [] =>
        if choice.takesValue then
          readFrom known isStrict (some ⟨choice.letter, s!"option '--{choice.word}' requires an argument"⟩) done rest
        else readFrom known isStrict none (take [(choice.letter, "")]) rest
      | .ok choice, _ :: value =>
        if choice.takesValue then readFrom known isStrict none (take [(choice.letter, String.ofList value)]) rest
        else .error s!"option '--{choice.word}' doesn't allow an argument"
    | none, '-' :: c :: more =>
      match letters known (c :: more) with
      | .error message => .error message
      | .ok (options, false) => readFrom known isStrict none (take options) rest
      | .ok (options, true) =>
        let letter := (options.getLast?.map Prod.fst).getD ' '
        let complaint := s!"option requires an argument -- '{String.singleton letter}'"
        readFrom known isStrict (some ⟨letter, complaint⟩) (take options.dropLast) rest
    | none, _ =>
      if isStrict then .ok { done with rest := done.rest ++ argument :: rest }
      else readFrom known isStrict none { done with rest := done.rest ++ [argument] } rest

def read (known : List Choice) (isStrict : Bool) (arguments : List String) : Except String Choices :=
  readFrom known isStrict none {} arguments

end Choices

/-- Choices that are letters only, each with a colon behind it if it takes a value. -/
def letterChoices (spec : String) : List Choice :=
  let rec go : List Char → List Choice
    | c :: ':' :: rest => { letter := c, takesValue := true } :: go rest
    | c :: rest => { letter := c } :: go rest
    | [] => []
  go spec.toList

def Call.choosing (call : Call) (known : List Choice) (act : Choices → ToolResult) : ToolResult :=
  match Choices.read known false call.arguments with
  | .ok choices => act choices
  | .error message => call.usage message

/-- The same for a tool whose options stand in front of its other arguments. -/
def Call.choosingFirst (call : Call) (known : List Choice) (act : Choices → ToolResult) : ToolResult :=
  match Choices.read known true call.arguments with
  | .ok choices => act choices
  | .error message => call.usage message

end Stemcell.Rehearsal.Machine
