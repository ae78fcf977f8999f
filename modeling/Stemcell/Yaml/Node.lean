import Stemcell.Yaml.Tag
/-!
A document as a graph of tagged texts and collections. Collections name their parts by number, so that one part can
stand at several places, and also inside of itself.
-/
namespace Stemcell.Yaml

/-- A part of a document. -/
inductive Node where
  /-- A text by the numbers of its characters. -/
  | scalar (tag : Tag) (codes : List Nat)
  | sequence (tag : Tag) (items : List Nat)
  | mapping (tag : Tag) (entries : List (Nat × Nat))
  deriving Repr, Inhabited

namespace Node

def tag : Node → Tag
  | .scalar tag _ | .sequence tag _ | .mapping tag _ => tag

def withTag (tag : Tag) : Node → Node
  | .scalar _ codes => .scalar tag codes
  | .sequence _ items => .sequence tag items
  | .mapping _ entries => .mapping tag entries

def entries : Node → List (Nat × Nat)
  | .mapping _ entries => entries
  | _ => []

/-- Numbers of characters as a text that can be looked at; a lone half of a pair is replaced. -/
def textOf (codes : List Nat) : String := String.ofList (Text.Surrogate.joined codes)

/-- A text with the tag that is written before it; without one it gets its tag from its form if it is plain. -/
def ofText (written : Option String) (codes : List Nat) (plain : Bool) : Node :=
  match written with
  | none => .scalar (if plain then .ofPlain (textOf codes) else .text) codes
  | some "!" => .scalar (.ofPlain (textOf codes)) codes
  | some name => .scalar (.ofName name) codes

def collectionTag (written : Option String) (usual : Tag) : Tag :=
  match written with
  | none => usual
  | some "!" => usual
  | some name => .ofName name

/-- The part that stands for nothing. -/
def empty : Node := .scalar .null []

end Node

/-- The parts of a document by number. -/
structure Graph where
  nodes : Array Node := #[]

namespace Graph

def node (g : Graph) (n : Nat) : Node := g.nodes[n]?.getD .empty

/-- Adds a part, which gets the next number. -/
def add (node : Node) (g : Graph) : Graph := ⟨g.nodes.push node⟩

/-- Puts another part in the place of one. -/
def set (n : Nat) (node : Node) (g : Graph) : Graph := ⟨g.nodes.setIfInBounds n node⟩

end Graph

end Stemcell.Yaml
