import Stemcell.CommandLine.Grammar
import Stemcell.Text.Quoted
/-!
What can be wrong with a command line.
-/
namespace Stemcell.CommandLine

inductive Complaint where
  /-- A word is the beginning of more than one switch. -/
  | ambiguous (word : String) (candidates : List String)
  | uselessValue (switch : Switch) (value : String)
  | missingValue (switch : Switch)
  | missingCommand
  | unknownCommand (word : String)
  | unrecognized (words : List String)
  deriving DecidableEq, Repr

def Complaint.message : Complaint → String
  | .ambiguous word candidates => s!"ambiguous option: {word} could match " ++ Text.join ", " candidates
  | .uselessValue switch value =>
    s!"argument {switch.label}: ignored explicit argument " ++ Text.quoted value
  | .missingValue switch => s!"argument {switch.label}: expected one argument"
  | .missingCommand => "the following arguments are required: command"
  | .unknownCommand word =>
    let choices := Text.join ", " (CommandName.all.map fun c => Text.quoted c.word)
    "argument command: invalid choice: " ++ Text.quoted word ++ s!" (choose from {choices})"
  | .unrecognized words => "unrecognized arguments: " ++ Text.join " " words

/-- Why a command line starts nothing. -/
inductive Refusal where
  | help (place : Place)
  /-- Something is wrong with what is written at a place. -/
  | complaint (place : Place) (complaint : Complaint)
  deriving DecidableEq, Repr

namespace Refusal

def status : Refusal → Nat
  | help _ => 0
  | complaint .. => 2

def stdout : Refusal → String
  | help place => place.help
  | complaint .. => ""

/-- What is written about a mistake. -/
def stderr : Refusal → String
  | help _ => ""
  | complaint place c => Place.lines (place.usage ++ [s!"{place.label}: error: {c.message}"])

end Refusal

end Stemcell.CommandLine
