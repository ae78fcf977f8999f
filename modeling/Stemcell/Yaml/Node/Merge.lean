import Stemcell.Yaml.Node
import Stemcell.Yaml.Problem
/-!
Merging: a mapping takes over the entries of the mappings under its merge keys. They come before its own, so an own
entry wins; of several mappings the one named first wins. What is merged has its own merge keys resolved first, and
it keeps what it took over. Under a value key there is then a plain text key.
-/
namespace Stemcell.Yaml.Graph

/-- Whether an entry stands under a merge key. -/
def isMerge (g : Graph) (e : Nat × Nat) : Bool := (g.node e.1).tag = .merge

/-- The number of entries under merge keys in the whole document. -/
def mergeCount (g : Graph) : Nat := (g.nodes.toList.map fun n => n.entries.countP g.isMerge).foldl (· + ·) 0

/-- The first merge key of a mapping with what is to be merged there, and the other entries. -/
def nextMerge? (g : Graph) (n : Nat) : Option (Nat × List (Nat × Nat)) :=
  let entries := (g.node n).entries
  (entries.find? g.isMerge).map fun e => (e.2, entries.eraseP g.isMerge)

/-- Puts entries in the place of those of a mapping. -/
def setEntries (n : Nat) (entries : List (Nat × Nat)) (g : Graph) : Graph :=
  g.set n (.mapping (g.node n).tag entries)

/-- Makes texts of value keys. -/
def plainKeys (entries : List (Nat × Nat)) (g : Graph) : Graph :=
  entries.foldl (fun g e => if (g.node e.1).tag = .value then g.set e.1 ((g.node e.1).withTag .text) else g) g

/-- Resolves the merge keys of a mapping, of which those before the next one have given some entries. Each step
takes a merge key away for good, so their number is fuel enough. -/
def mergeFrom : Nat → Nat → List (Nat × Nat) → Graph → Except Obstacle Graph
  | 0, _, _, g => .ok g
  | fuel + 1, n, taken, g =>
    match g.nextMerge? n with
    | none =>
      let own := (g.node n).entries
      .ok ((g.plainKeys own).setEntries n (taken ++ own))
    | some (source, rest) =>
      let g := g.setEntries n rest
      match g.node source with
      | .mapping .. => do
        let g ← mergeFrom fuel source [] g
        mergeFrom fuel n (taken ++ (g.node source).entries) g
      | .sequence _ items => do
        let (more, g) ← items.foldlM
          (fun (more, g) item =>
            match g.node item with
            | .mapping .. => do
              let g ← mergeFrom fuel item [] g
              return ((g.node item).entries :: more, g)
            | _ => throw (.problem .notMergeable)) ([], g)
        mergeFrom fuel n (taken ++ more.flatten) g
      | .scalar .. => throw (.problem .notMergeable)

/-- Resolves the merge keys of a mapping. -/
def merge (n : Nat) (g : Graph) : Except Obstacle Graph :=
  mergeFrom (if (g.nextMerge? n).isSome then g.mergeCount + 1 else 1) n [] g

end Stemcell.Yaml.Graph
