import Stemcell.Yaml.Build
import Stemcell.Yaml.Node.Parser
import Stemcell.Yaml.Token.Lexer
/-!
Documents as values. A value is unfolded from its part of the document: what stands at several places is unfolded
once, and inside of itself a collection only leaves a mark.
-/
namespace Stemcell.Yaml

/-- The parts of a document with their values. -/
structure Document where
  parts : Array (Option Part)
  root : Nat

namespace Document

def part (d : Document) (n : Nat) : Part := (d.parts[n]?.join).getD (.atom ⟨.null, n⟩)

/-- The values that are unfolded already, by number of part. -/
abbrev Unfolded := Array (Option Value)

/-- Keeps a value for other places if no mark is left in it. -/
def keep (n : Nat) (v : Value) (isWhole : Bool) : StateM Unfolded (Value × Bool) := do
  if isWhole then modify fun known => known.setIfInBounds n (some v)
  return (v, isWhole)

/-- Unfolds a part that is inside of others, and tells whether no mark is left in its value. No part is inside of
more others than there are. -/
def unfold (d : Document) : Nat → List Nat → Nat → StateM Unfolded (Value × Bool)
  | 0, _, _ => return (.null, false)
  | fuel + 1, around, n => do
    if let some v := (← get)[n]?.join then return (v, true)
    let inside := d.unfold fuel (n :: around)
    match d.part n with
    | .atom a => return (a.value, true)
    | .set atoms => return (.set (atoms.map Atom.value), true)
    | .list items =>
      if around.contains n then return (.enclosing false, false)
      let found ← items.mapM inside
      keep n (.list (found.map Prod.fst)) (found.all Prod.snd)
    | .pairs pairs =>
      if around.contains n then return (.enclosing false, false)
      let found ← pairs.mapM fun p => return (← inside p.1, ← inside p.2)
      keep n (.list (found.map fun p => .pair p.1.1 p.2.1)) (found.all fun p => p.1.2 && p.2.2)
    | .mapping entries =>
      if around.contains n then return (.enclosing true, false)
      let found ← entries.parts.mapM fun e => return (e.1.value, ← inside e.2)
      keep n (.mapping (found.map fun e => (e.1, e.2.1))) (found.all fun e => e.2.2)

def values (d : Document) (parts : List Nat) : List Value :=
  ((parts.mapM (d.unfold (d.parts.size + 1) [])).run (Array.replicate d.parts.size none)).1.map Prod.fst

/-- Keys with the values of the parts under them. -/
def fields (d : Document) (entries : List (Value × Nat)) : List (Value × Value) :=
  (entries.map Prod.fst).zip (d.values (entries.map Prod.snd))

def isNull (d : Document) : Bool :=
  match d.part d.root with
  | .atom ⟨.null, _⟩ => true
  | _ => false

/-- The keys of a document that is a mapping, with the parts under them. -/
def entries? (d : Document) : Option (List (Value × Nat)) :=
  match d.part d.root with
  | .mapping entries => some (entries.parts.map fun e => (e.1.value, e.2))
  | _ => none

def ofSource (source : Source) : Except Obstacle (Option Document) := do
  match ← Graph.ofTokens? source.tokens with
  | none => return none
  | some (graph, root) =>
    let (_, b) ← StateT.run (Builder.run root) { graph, parts := Array.replicate graph.nodes.size none }
    return some ⟨b.parts, root⟩

def ofBytes (data : List UInt8) : Except Obstacle (Option Document) := ofSource (.ofBytes data)

end Document

end Stemcell.Yaml
