import Stemcell.CommandLine.Word
/-!
From the words of a command line to what is to be done. The switches count in order and the last one of a kind
wins; what is wrong is told at the first word where that shows, and words that nothing takes are told last.
-/
namespace Stemcell.CommandLine

inductive Command where
  /-- A construction with the values of its flags, and the path of a file with further values. -/
  | construct (flags : Config.Field → Option String) (config : Option String)
  | version

/-- What is to be done. -/
structure Invocation where
  verbose : Bool
  command : Command

/-- What has been read at one place. -/
structure Taken where
  /-- The switches with their values, the last one first. -/
  switches : List (Switch × String) := []
  /-- Words that nothing takes, the last one first. -/
  extras : List String := []

namespace Taken

def value? (t : Taken) (s : Switch) : Option String := (t.switches.find? (·.1 = s)).map Prod.snd

def has (t : Taken) (s : Switch) : Bool := (t.value? s).isSome

end Taken

/-- What further characters at the short switch for help come to. As many as are the switch again are taken; the
rest is a value, which it does not take. -/
def readCluster (place : Place) : List Char → Refusal
  | [] => .help place
  | 'h' :: tail => readCluster place tail
  | tail => .complaint place (.uselessValue .help (String.ofList tail))

/-- Reads words up to the first one that is not for this place: at the program's place this is the command with
all that follows, at a command's place there is no such word. -/
def readWords (place : Place) (taken : Taken) : List Word → Except Refusal (Taken × List Word)
  | [] => .ok (taken, [])
  | .switch s (some v) :: rest =>
    if s.takesValue then readWords place { taken with switches := (s, v) :: taken.switches } rest
    else .error (.complaint place (.uselessValue s v))
  | .switch s none :: rest =>
    if s = .help then .error (.help place)
    else if s.takesValue then
      match rest with
      | .plain v :: rest => readWords place { taken with switches := (s, v) :: taken.switches } rest
      | _ => .error (.complaint place (.missingValue s))
    else readWords place { taken with switches := (s, "") :: taken.switches } rest
  | .cluster tail :: _ => .error (readCluster place tail)
  | word :: rest =>
    match place, word with
    | .program, .plain _ | .program, .separator => .ok (taken, word :: rest)
    | _, _ => readWords place { taken with extras := word.text :: taken.extras } rest

def readPlace (place : Place) (words : List String) : Except Refusal (Taken × List Word) := do
  let words ← (Word.classifyAll place.switches words).mapError (.complaint place)
  readWords place {} words

def Command.of (taken : Taken) : CommandName → Command
  | .construct => .construct (fun f => taken.value? (.field f)) (taken.value? .config)
  | .version => .version

def Invocation.ofWords (words : List String) : Except Refusal Invocation := do
  let refuse (c : Complaint) : Refusal := .complaint .program c
  let (taken, rest) ← readPlace .program words
  match rest with
  | [] | [.separator] => throw (refuse .missingCommand)
  | .plain word :: behind =>
    match CommandName.all.find? (·.word = word) with
    | none => throw (refuse (.unknownCommand word))
    | some name =>
      let (ofCommand, _) ← readPlace (.command name) (words.drop (words.length - behind.length))
      match taken.extras.reverse ++ ofCommand.extras.reverse with
      | [] => return ⟨taken.has .verbose, .of ofCommand name⟩
      | extras => throw (refuse (.unrecognized extras))
  | _ => throw (refuse (.unknownCommand Word.separatorText))

end Stemcell.CommandLine
