import Stemcell.Yaml.Problem
/-!
The tokens of a document: the texts in it and the marks of its structure, those included that only the indentation
shows.
-/
namespace Stemcell.Yaml

/-- What a directive in front of a document says. -/
inductive Directive where
  | version (major minor : Nat)
  | handle (handle start : String)
  | other
  deriving DecidableEq, Repr

inductive Token where
  | directive (directive : Directive)
  | documentStart
  | documentEnd
  | blockSequence
  | blockMapping
  | blockEnd
  | openBracket
  | closeBracket
  | openBrace
  | closeBrace
  | comma
  | item
  /-- The mark of a key, written or not. -/
  | key
  | value
  | reference (name : String)
  | anchor (name : String)
  | tag (handle : Option String) (suffix : String)
  /-- A text by the numbers of its characters, and whether it stands there without quotes or another mark. -/
  | scalar (codes : List Nat) (plain : Bool)
  deriving DecidableEq, Repr

/-- The tokens that can be had from a text, and what stands in the way of further ones if the text does not just
end there. -/
structure Tokens where
  list : List Token
  obstacle : Option Obstacle := none

end Stemcell.Yaml
