/-!
The scripts of a machine's shell. A word is made of pieces, some of which stand for something else; commands are
joined by pipes and by the marks for "and", "or" and "then", and there are loops, branches and functions.
-/
namespace Stemcell.Rehearsal.Machine

/-- What a parameter is given a word for. -/
inductive Otherwise where
  /-- The word stands in for a missing value. -/
  | instead
  /-- The word becomes the value that is missing. -/
  | assign
  | complain
  /-- The word stands in for a value that is there. -/
  | replace
  deriving DecidableEq, Repr

/-- The ways in which a redirection opens a file. -/
inductive Opening where
  | input
  | output
  /-- The same, also where files that are there are kept. -/
  | overwrite
  | append
  /-- Another number for what a number stands for. -/
  | duplicate
  /-- A text in the script. -/
  | document (number : Nat)
  deriving DecidableEq, Repr

mutual

inductive Piece where
  | text (s : String) (quoted : Bool)
  | parameter (name : String) (use : ParameterUse) (quoted : Bool)
  /-- What commands write. -/
  | output (body : Command) (quoted : Bool)
  | arithmetic (expression : List Piece) (quoted : Bool)

inductive ParameterUse where
  | value
  | length
  /-- A word for the case that there is no value, or also that the value is empty. -/
  | otherwise (kind : Otherwise) (evenIfEmpty : Bool) (word : List Piece)
  /-- The value without what a pattern matches at one of its ends. -/
  | trimmed (atEnd longest : Bool) (pattern : List Piece)
  /-- A use that does not exist. -/
  | unknown

/-- Where one of the streams of a command comes from or goes. -/
inductive Redirection where
  | mk (number : Nat) (opening : Opening) (word : List Piece)

inductive Command where
  /-- A line number and words, assignments among them. -/
  | simple (line : Nat) (words : List (List Piece)) (redirections : List Redirection)
  | pipeline (commands : List Command)
  | negated (command : Command)
  | both (first second : Command)
  | either (first second : Command)
  | sequence (commands : List Command)
  | background (command : Command)
  | subshell (body : Command)
  | redirected (body : Command) (redirections : List Redirection)
  | branch (condition body otherwise : Command)
  /-- A loop that goes on as long as the condition holds, or as long as it does not. -/
  | loop (isUntil : Bool) (condition body : Command)
  /-- A loop over words, or over the arguments. -/
  | each (line : Nat) (name : String) (words : Option (List (List Piece))) (body : Command)
  | select (line : Nat) (word : List Piece) (cases : List (List (List Piece) × Command))
  | define (name : String) (body : Command)

end

abbrev Word := List Piece

instance : Inhabited Command := ⟨.sequence []⟩

def isNameChar (c : Char) : Bool := c.isAlphanum || c = '_'

def isName (s : String) : Bool :=
  match s.toList with
  | [] => false
  | c :: rest => isNameChar c && !c.isDigit && rest.all isNameChar

def assignment? (word : Word) : Option (String × Word) :=
  match word with
  | .text s false :: rest =>
    let name := String.ofList (s.toList.takeWhile (· ≠ '='))
    match s.toList.drop name.length with
    | '=' :: value => if isName name then some (name, .text (String.ofList value) false :: rest) else none
    | _ => none
  | _ => none

end Stemcell.Rehearsal.Machine
