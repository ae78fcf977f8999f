import Stemcell.Rehearsal.Machine.Octets
/-!
Patterns: a question mark stands for one character, a star for any text, and brackets for one of some characters.
A quoted character stands for itself.
-/
namespace Stemcell.Rehearsal.Machine

/-- A character of a word, and whether it is quoted. -/
structure Glyph where
  char : Char
  isQuoted : Bool
  deriving DecidableEq, Repr, Inhabited

/-- A text of which every character is quoted, or none. -/
def glyphs (isQuoted : Bool) (s : String) : List Glyph := s.toList.map fun c => ⟨c, isQuoted⟩

/-- The text of a word without its quotes. -/
def unquoted (word : List Glyph) : String := String.ofList (word.map Glyph.char)

namespace Pattern

inductive Part where
  | literal (c : Char)
  | anyOne
  | anyText
  | oneOf (isNegated : Bool) (ranges : List (Char × Char))
  deriving DecidableEq, Repr

def classRanges (name : String) : List (Char × Char) :=
  match name with
  | "alpha" => [('a', 'z'), ('A', 'Z')]
  | "digit" => [('0', '9')]
  | "alnum" => [('a', 'z'), ('A', 'Z'), ('0', '9')]
  | "upper" => [('A', 'Z')]
  | "lower" => [('a', 'z')]
  | "space" => [(' ', ' '), ('\t', '\r')]
  | "blank" => [(' ', ' '), ('\t', '\t')]
  | "punct" => [('!', '/'), (':', '@'), ('[', '\x60'), ('\x7b', '~')]
  | "print" => [(' ', '~')]
  | "graph" => [('!', '~')]
  | "cntrl" => [('\x00', '\x1f'), ('\x7f', '\x7f')]
  | "xdigit" => [('0', '9'), ('a', 'f'), ('A', 'F')]
  | _ => []

def inRanges (ranges : List (Char × Char)) (c : Char) : Bool := ranges.any fun r => r.1 ≤ c && c ≤ r.2

def isPlain (c : Char) (g : Glyph) : Bool := g.char = c && !g.isQuoted

/-- The name of the class that starts here, behind its bracket and colon, and what is left. -/
def className (s : List Glyph) : Option (String × List Glyph) :=
  let name := s.takeWhile (·.char.isAlpha)
  match s.drop name.length with
  | ⟨':', _⟩ :: ⟨']', _⟩ :: rest => some (unquoted name, rest)
  | _ => none

/-- The ranges up to the bracket that closes them, and what is left. A bracket that comes first stands for
itself. -/
def rangesOf (isFirst : Bool) (done : List (Char × Char)) : Nat → List Glyph → Option (List (Char × Char) × List Glyph)
  | 0, _ => none
  | fuel + 1, s =>
    match s with
    | [] => none
    | g :: rest =>
      let single : Option (List (Char × Char) × List Glyph) :=
        match rest with
        | ⟨'-', false⟩ :: last :: more =>
          if isPlain ']' last then rangesOf false ((g.char, g.char) :: done) fuel rest
          else rangesOf false ((g.char, last.char) :: done) fuel more
        | _ => rangesOf false ((g.char, g.char) :: done) fuel rest
      if isPlain ']' g && !isFirst then some (done, rest)
      else
        match g, rest with
        | ⟨'[', false⟩, ⟨':', _⟩ :: more =>
          match className more with
          | some (name, rest) => rangesOf false (classRanges name ++ done) fuel rest
          | none => single
        | ⟨'\\', false⟩, next :: more => rangesOf false ((next.char, next.char) :: done) fuel more
        | _, _ => single

/-- The pattern that a word is. Brackets that are not closed stand for themselves. -/
def parts : Nat → List Glyph → List Part
  | 0, _ => []
  | fuel + 1, s =>
    match s with
    | [] => []
    | ⟨c, true⟩ :: rest => .literal c :: parts fuel rest
    | ⟨'?', false⟩ :: rest => .anyOne :: parts fuel rest
    | ⟨'*', false⟩ :: rest => .anyText :: parts fuel rest
    | ⟨'\\', false⟩ :: next :: rest => .literal next.char :: parts fuel rest
    | ⟨'[', false⟩ :: rest =>
      let (isNegated, inner) :=
        match rest with
        | ⟨'!', false⟩ :: more | ⟨'^', false⟩ :: more => (true, more)
        | _ => (false, rest)
      match rangesOf true [] (inner.length + 1) inner with
      | some (ranges, rest) => .oneOf isNegated ranges :: parts fuel rest
      | none => .literal '[' :: parts fuel rest
    | ⟨c, false⟩ :: rest => .literal c :: parts fuel rest

def ofWord (word : List Glyph) : List Part := parts (word.length + 1) word

def Part.accepts (c : Char) : Part → Bool
  | .literal d => c = d
  | .anyOne | .anyText => true
  | .oneOf isNegated ranges => inRanges ranges c != isNegated

def accepts : List Part → List Char → Bool
  | [], s => s.isEmpty
  | .anyText :: p, [] => accepts p []
  | .anyText :: p, c :: s => accepts p (c :: s) || accepts (.anyText :: p) s
  | _ :: _, [] => false
  | part :: p, c :: s => part.accepts c && accepts p s
  termination_by p s => p.length + s.length

/-- Whether a pattern has a part that stands for more than one text. -/
def isOpen (pattern : List Part) : Bool :=
  pattern.any fun part => match part with | .literal _ => false | _ => true

/-- How much of a text a pattern stands for, from one of its ends: the shortest piece or the longest. -/
def reach (pattern : List Part) (atEnd longest : Bool) (s : List Char) : Option Nat :=
  let sizes := List.range (s.length + 1)
  (if longest then sizes.reverse else sizes).find? fun n =>
    accepts pattern (if atEnd then s.drop (s.length - n) else s.take n)

/-- A text without what a pattern stands for at one of its ends. -/
def trimmed (pattern : List Part) (atEnd longest : Bool) (s : String) : String :=
  match reach pattern atEnd longest s.toList with
  | some n =>
    String.ofList (if atEnd then s.toList.take (s.length - n) else s.toList.drop n)
  | none => s

example : accepts (ofWord (glyphs false "a*[0-9]?")) "ab7x".toList = true := by decide +kernel
example : accepts (ofWord (glyphs true "a*")) "ab".toList = false := by decide +kernel
example : trimmed (ofWord (glyphs false "*/")) false true "a/b/c" = "c" := by decide +kernel

end Pattern

end Stemcell.Rehearsal.Machine
