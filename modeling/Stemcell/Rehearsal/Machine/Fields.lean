import Stemcell.Rehearsal.Machine.Disk
import Stemcell.Rehearsal.Machine.Pattern
/-!
Words with what their pieces stand for in place. They are taken apart at separators, which count only in what was
put in place without quotes, and patterns are replaced by the paths that they stand for.
-/
namespace Stemcell.Rehearsal.Machine

/-- A part of a word with what its pieces stand for in place. -/
inductive Mark where
  | char (c : Char) (isQuoted isFound : Bool)
  /-- Nothing, but quoted, so that there is a word. -/
  | void
  /-- A place between words. -/
  | gap
  deriving DecidableEq, Repr

namespace Mark

def plain (isQuoted : Bool) (s : String) : List Mark := s.toList.map (.char · isQuoted false)

/-- The marks of a text that a piece stands for. -/
def found (isQuoted : Bool) (s : String) : List Mark :=
  (if isQuoted then [.void] else []) ++ s.toList.map (.char · isQuoted true)

def asFound : Mark → Mark
  | .char c isQuoted _ => .char c isQuoted true
  | m => m

/-- The word of marks that are not taken apart; a text stands for a place between words. -/
def glyphs (between : String) (marks : List Mark) : List Glyph :=
  marks.flatMap fun m =>
    match m with
    | .char c isQuoted _ => [⟨c, isQuoted⟩]
    | .void => []
    | .gap => Machine.glyphs true between

/-- The text of marks that are not taken apart. -/
def text (marks : List Mark) : String := unquoted (glyphs " " marks)

end Mark

namespace Fields

/-- Words that are being taken apart. -/
structure State where
  /-- The words that are complete, the last one first. -/
  done : List (List Glyph) := []
  /-- The word at work, reversed. -/
  open? : Option (List Glyph) := none
  /-- Whether a blank ended the last word, so that a separator behind it ends none. -/
  afterBlank : Bool := false

/-- Ends the word at work if there is one. -/
def State.close (s : State) : State :=
  match s.open? with
  | some word => { s with done := word.reverse :: s.done, open? := none }
  | none => s

def State.step (separators : List Char) (s : State) (m : Mark) : State :=
  match m with
  | .void => { s with open? := some (s.open?.getD []), afterBlank := false }
  | .gap => { s.close with afterBlank := false }
  | .char c isQuoted isFound =>
    if isFound && !isQuoted && separators.contains c then
      if c = ' ' || c = '\t' || c = '\n' then
        if s.open?.isSome then { s.close with afterBlank := true } else s
      else if s.open?.isSome then { s.close with afterBlank := false }
      else if s.afterBlank then { s with afterBlank := false }
      else { s with done := [] :: s.done }
    else { s with open? := some (⟨c, isQuoted⟩ :: s.open?.getD []), afterBlank := false }

def split (separators : String) (marks : List Mark) : List (List Glyph) :=
  (marks.foldl (State.step separators.toList) {}).close.done.reverse

/-- A word taken apart at slashes. -/
def components (word : List Glyph) : List (List Glyph) :=
  word.foldr (fun g parts =>
    if g.char = '/' then [] :: parts
    else match parts with | part :: rest => (g :: part) :: rest | [] => [[g]]) [[]]

/-- The paths that components stand for, behind a path that was found for those before them. -/
def expand (files : Files) (path : String) : List (List Glyph) → List String
  | [] => [path]
  | part :: rest =>
    let pattern := Pattern.ofWord part
    let mark := if rest.isEmpty then "" else "/"
    if Pattern.isOpen pattern then
      let directory := readable path
      match Disk.node files (if directory.isEmpty then "." else directory) with
      | .ok node =>
        let isHidden (name : String) : Bool := name.toList.head? = some '.'
        let wantsHidden := (part.head?.map Glyph.char) = some '.'
        let names := ((Disk.names node).map octets).filter fun name =>
          (!isHidden name || wantsHidden) && Pattern.accepts pattern name.toList
        names.flatMap fun name => expand files (path ++ name ++ mark) rest
      | .error _ => []
    else
      let path := path ++ unquoted part ++ mark
      if rest.isEmpty then
        match Disk.plainNode files (readable path) with
        | .ok _ => [path]
        | .error _ => if path.toList.getLast? = some '/' then [path] else []
      else expand files path rest

/-- The paths that a word stands for, or its text if there are none. -/
def paths (files : Files) (word : List Glyph) : List String :=
  let isOpen := Pattern.isOpen (Pattern.ofWord word)
  let found := if isOpen then expand files "" (components word) else []
  if found.isEmpty then [unquoted word] else found.mergeSort fun a b => a ≤ b

example : (split " \t\n" (Mark.plain false "a" ++ Mark.found false "b  c " ++ [.void])).map unquoted = ["ab", "c", ""] := by
  decide +kernel
example : (split " :" (Mark.found false " a : b:: c ")).map unquoted = ["a", "b", "", "c"] := by decide +kernel

end Fields

end Stemcell.Rehearsal.Machine
