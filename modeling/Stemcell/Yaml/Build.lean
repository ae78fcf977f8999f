import Stemcell.Yaml.Node.Merge
import Stemcell.Yaml.Scalar
/-!
From the graph of a document to its values. Only the safe types are known. A part gets its value once, wherever it
stands. A collection is first noted and later filled, in the order in which collections were noted, so of several
obstacles the one nearest to the root is met first.
-/
namespace Stemcell.Yaml

/-- A value that is no collection. Two of one identity count as the same key, even if they are not equal. -/
structure Atom where
  value : Value
  identity : Nat
  deriving Repr

/-- Whether two values count as the same key. -/
def Atom.same (a b : Atom) : Bool := a.identity = b.identity || a.value.sameAtom b.value

/-- Enters a part under a key: the key keeps its first place and spelling, the last part counts. -/
def insertEntry (key : Atom) (part : Nat) : List (Atom × Nat) → List (Atom × Nat)
  | [] => [(key, part)]
  | (k, p) :: rest => if k.same key then (k, part) :: rest else (k, p) :: insertEntry key part rest

/-- A key is put behind the others if it is the same as none of them, and else the keys stay. -/
theorem keys_insertEntry (key : Atom) (part : Nat) (entries : List (Atom × Nat)) :
    (insertEntry key part entries).map Prod.fst = entries.map Prod.fst ∨
      (∀ k ∈ entries.map Prod.fst, k.same key = false) ∧
        (insertEntry key part entries).map Prod.fst = entries.map Prod.fst ++ [key] := by
  induction entries with
  | nil => exact .inr ⟨by simp, rfl⟩
  | cons e rest ih =>
    rw [insertEntry]
    by_cases hsame : e.1.same key = true
    · rw [if_pos hsame]
      exact .inl rfl
    · rw [if_neg hsame]
      rcases ih with ih | ⟨hnone, ih⟩
      · exact .inl (congrArg (e.1 :: ·) ih)
      · refine .inr ⟨List.forall_mem_cons.mpr ⟨?_, hnone⟩, congrArg (e.1 :: ·) ih⟩
        simpa using hsame

/-- The parts of a mapping, no two of them under the same key. -/
structure Entries where
  parts : List (Atom × Nat) := []
  distinct : (parts.map Prod.fst).Pairwise fun k l => k.same l = false := by exact .nil
  deriving Repr

def Entries.insert (key : Atom) (part : Nat) (entries : Entries) : Entries where
  parts := insertEntry key part entries.parts
  distinct := by
    rcases keys_insertEntry key part entries.parts with h | ⟨hnone, h⟩
    · rw [h]
      exact entries.distinct
    · rw [h, List.pairwise_append]
      refine ⟨entries.distinct, List.pairwise_singleton _ _, fun k hk l hl => ?_⟩
      rw [List.mem_singleton.mp hl]
      exact hnone k hk

/-- A part of a document with its value. Collections name their parts by number. -/
inductive Part where
  | atom (atom : Atom)
  | list (items : List Nat)
  | pairs (pairs : List (Nat × Nat))
  | mapping (entries : Entries)
  | set (atoms : List Atom)
  deriving Repr

/-- How far the values of a document have been found. -/
structure Building where
  graph : Graph
  parts : Array (Option Part)
  noted : Array Nat := #[]

/-- A step of finding the values of a document. -/
abbrev Builder (α : Type) := StateT Building (Except Obstacle) α

namespace Builder

def fail {α : Type} (p : Problem) : Builder α := throw (.problem p)

/-- How many mappings may be gone through for a text. -/
def textDepth : Nat := 970

/-- The text that a part stands for; of a mapping it is the one under the value key. -/
def textOf (g : Graph) : Nat → Nat → Except Obstacle (Option (List Nat))
  | 0, _ => .error (.fault (.tooDeep ""))
  | fuel + 1, n =>
    match g.node n with
    | .scalar _ codes => .ok (some codes)
    | .sequence .. => .ok none
    | .mapping _ entries =>
      match entries.find? fun e => (g.node e.1).tag = .value with
      | some e => textOf g fuel e.2
      | none => .ok none

/-- The value of a part with a tag of texts. -/
def atomOf (g : Graph) (n : Nat) : Except Obstacle Atom := do
  let node := g.node n
  match node.tag with
  | .merge | .value | .other _ => throw (.problem (.unknownTag node.tag.name))
  | tag =>
    match ← textOf g textDepth n with
    | none => throw (.problem (.wrongShape tag.name))
    | some codes =>
      match tag, node with
      | .moment, .mapping .. => throw (.fault (.notSearched .list))
      | _, _ =>
        let isShared := tag = .float && Scalar.isNotANumber (Node.textOf codes)
        return ⟨← Scalar.value tag codes, if isShared then g.nodes.size else n⟩

def keep (n : Nat) (part : Part) : Builder Unit := modify fun b => { b with parts := b.parts.setIfInBounds n (some part) }

def note (n : Nat) (part : Part) : Builder Unit := do
  keep n part
  modify fun b => { b with noted := b.noted.push n }

/-- Finds the value of a part, unless that is done; of a collection only the kind. -/
def make (n : Nat) : Builder Unit := do
  let b ← get
  if (b.parts[n]?.join).isNone then
    match (b.graph.node n).tag with
    | .sequence => note n (.list [])
    | .orderedMapping | .pairs => note n (.pairs [])
    | .mapping => note n (.mapping {})
    | .set => note n (.set [])
    | _ => keep n (.atom (← atomOf b.graph n))

def makeKey (n : Nat) : Builder Atom := do
  make n
  match (← get).parts[n]?.join with
  | some (.atom a) => return a
  | _ => fail .collectionAsKey

def entriesOf (n : Nat) : Builder Entries := do
  let graph ← (← get).graph.merge n
  modify fun b => { b with graph }
  (graph.node n).entries.foldlM
    (fun done e => do
      let key ← makeKey e.1
      make e.2
      return done.insert key e.2) {}

/-- Finds a pair, which is a mapping with one entry. -/
def pairOf (tag : Tag) (n : Nat) : Builder (Nat × Nat) := do
  match (← get).graph.node n with
  | .mapping _ [(first, second)] =>
    make first
    make second
    return (first, second)
  | _ => fail (.wrongShape tag.name)

def fill (n : Nat) : Builder Unit := do
  match (← get).graph.node n with
  | .sequence .sequence items =>
    items.forM make
    keep n (.list items)
  | .sequence .orderedMapping items => keep n (.pairs (← items.mapM (pairOf .orderedMapping)))
  | .sequence .pairs items => keep n (.pairs (← items.mapM (pairOf .pairs)))
  | .mapping .mapping _ => keep n (.mapping (← entriesOf n))
  | .mapping .set _ => keep n (.set ((← entriesOf n).parts.map Prod.fst))
  | node => fail (.wrongShape node.tag.name)

/-- Fills all noted collections from one on. No part is noted twice, so there are no more of them than parts. -/
def fillFrom (next : Nat) : Nat → Builder Unit
  | 0 => pure ()
  | fuel + 1 => do
    match (← get).noted[next]? with
    | none => pure ()
    | some n =>
      fill n
      fillFrom (next + 1) fuel

/-- Finds all values of a document. -/
def run (root : Nat) : Builder Unit := do
  make root
  fillFrom 0 (← get).parts.size

end Builder

end Stemcell.Yaml
