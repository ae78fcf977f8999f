import Stemcell.CommandLine.Complaint
import Stemcell.Text.Digit
/-!
The words of a command line. A word that starts with a dash is a switch, unless it is a negative number or holds
a space; the beginning of a long switch is as good as the switch if no other one starts like this. Behind the word
`--` all words are plain.
-/
namespace Stemcell.CommandLine

inductive Word where
  | separator
  | plain (text : String)
  /-- A switch with the value behind an equals sign. -/
  | switch (switch : Switch) (value : Option String)
  /-- The short switch for help with further characters at it, or behind an equals sign. -/
  | cluster (tail : List Char)
  /-- A word like a switch that is none. -/
  | unknown (text : String)
  deriving DecidableEq, Repr

namespace Word

/-- The mark behind which all words are plain. -/
def separatorText : String := "--"

def shortHelp : String := "-h"

/-- A text before and behind its first equals sign, if it has one. -/
def splitValue (s : List Char) : List Char × Option String :=
  match s.dropWhile (· ≠ '=') with
  | [] => (s, none)
  | _ :: value => (s.takeWhile (· ≠ '='), some (String.ofList value))

def named (switches : List Switch) : List (String × Switch) :=
  switches.flatMap fun s => s.names.map (·, s)

def isNegativeNumber (s : List Char) : Bool :=
  let isDigits (s : List Char) : Bool := !s.isEmpty && s.all fun c => (Text.digitValue? c).isSome
  let s := if s.getLast? = some '\n' then s.dropLast else s
  match s with
  | '-' :: rest =>
    let whole := rest.takeWhile (· ≠ '.')
    match rest.drop whole.length with
    | [] => isDigits whole
    | _ :: fraction => (whole.isEmpty || isDigits whole) && isDigits fraction
  | _ => false

def candidates (switches : List Switch) (word : List Char) : List (String × Word) :=
  match word with
  | '-' :: '-' :: _ =>
    let (start, value) := splitValue word
    ((named switches).filter fun e => start.isPrefixOf e.1.toList).map fun e => (e.1, .switch e.2 value)
  | '-' :: 'h' :: tail => [(shortHelp, .cluster tail)]
  | _ => []

def classify (switches : List Switch) (text : String) : Except Complaint Word :=
  let word := text.toList
  if word.head? ≠ some '-' then .ok (.plain text)
  else
    match (named switches).find? (·.1 = text) with
    | some e => .ok (.switch e.2 none)
    | none =>
      if word.length = 1 then .ok (.plain text)
      else
        let (name, value) := splitValue word
        match value, (named switches).find? (·.1 = String.ofList name) with
        | some v, some e =>
          .ok (if String.ofList name = shortHelp && !v.isEmpty then .cluster v.toList else .switch e.2 (some v))
        | _, _ =>
          match candidates switches word with
          | [(_, found)] => .ok found
          | _ :: _ :: _ => .error (.ambiguous text ((candidates switches word).map Prod.fst))
          | [] => .ok (if isNegativeNumber word || word.contains ' ' then .plain text else .unknown text)

def classifyAll (switches : List Switch) : List String → Except Complaint (List Word)
  | [] => .ok []
  | text :: rest =>
    if text = separatorText then .ok (.separator :: rest.map .plain)
    else do
      let word ← classify switches text
      return word :: (← classifyAll switches rest)

/-- A word as it was written, if nothing takes it. -/
def text : Word → String
  | .separator => separatorText
  | .plain text | .unknown text => text
  | .switch .. | .cluster _ => ""

end Word

end Stemcell.CommandLine
