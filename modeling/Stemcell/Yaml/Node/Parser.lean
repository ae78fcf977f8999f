import Stemcell.Yaml.Node
import Stemcell.Yaml.Token
/-!
From the tokens of a document to its graph. An alias stands for the part that its anchor was set at, which may be a
collection that is not closed yet. Tokens are looked at one by one, so what stands in the way of a token counts only
once that token is needed.
-/
namespace Stemcell.Yaml

/-- How far a reading has come. -/
structure Reading where
  tokens : Tokens
  graph : Graph := {}
  anchors : List (String × Nat) := []
  handles : List (String × String) := []
  /-- How many collections are open. -/
  depth : Nat := 0

abbrev Reader (α : Type) := StateT Reading (Except Obstacle) α

namespace Reader

def fail {α : Type} (p : Problem) : Reader α := throw (.problem p)

def peek : Reader (Option Token) := do
  let tokens := (← get).tokens
  match tokens.list, tokens.obstacle with
  | t :: _, _ => return some t
  | [], none => return none
  | [], some e => throw e

/-- Goes behind the next token. -/
def drop : Reader Unit := modify fun r => { r with tokens.list := r.tokens.list.drop 1 }

/-- Goes behind a token if it is the next one, and tells whether it is. -/
def accept (t : Token) : Reader Bool := do
  if (← peek) = some t then
    drop
    return true
  return false

def isNext (ts : List Token) : Reader Bool := do
  match ← peek with
  | some t => return ts.contains t
  | none => return false

/-- The handles that always stand for something. -/
def usualHandles : List (String × String) := [("!", "!"), ("!!", Tag.root)]

def tagName (handle : Option String) (suffix : String) : Reader String := do
  match handle with
  | none => return suffix
  | some h =>
    match (← get).handles.find? (·.1 = h) with
    | some e => return e.2 ++ suffix
    | none => fail (.unknownHandle h)

/-- Reads an anchor and a tag, in either order. -/
def properties : Reader (Option String × Option String) := do
  let anchor : Reader (Option String) := do
    match ← peek with
    | some (.anchor name) =>
      drop
      return some name
    | _ => return none
  let tag : Reader (Option (Option String × String)) := do
    match ← peek with
    | some (.tag handle suffix) =>
      drop
      return some (handle, suffix)
    | _ => return none
  let first ← anchor
  let written ← tag
  let name ← if first.isNone && written.isSome then anchor else pure first
  match written with
  | none => return (name, none)
  | some (handle, suffix) => return (name, some (← tagName handle suffix))

/-- The part that an alias stands for. -/
def referenced (name : String) : Reader Nat := do
  match (← get).anchors.find? (·.1 = name) with
  | some e => return e.2
  | none => fail (.unknownAlias name)

def add (node : Node) : Reader Nat := modifyGet fun r => (r.graph.nodes.size, { r with graph := r.graph.add node })

/-- Adds a part that stands for nothing. -/
def addEmpty : Reader Nat := add .empty

/-- Adds a part and sets an anchor at it. -/
def addAt (anchor : Option String) (node : Node) : Reader Nat := do
  let n ← add node
  if let some name := anchor then modify fun r => { r with anchors := (name, n) :: r.anchors }
  return n

/-- How many collections may be open at once. -/
def depthLimit : Nat := 485

def collection {α : Type} (anchor : Option String) (ofParts : List α → Node) (parts : Reader (List α)) :
    Reader Nat := do
  let n ← addAt anchor (ofParts [])
  if depthLimit ≤ (← get).depth then throw (.fault (.tooDeep ""))
  modify fun r => { r with depth := r.depth + 1 }
  let found ← parts
  modify fun r => { r with depth := r.depth - 1, graph := r.graph.set n (ofParts found) }
  return n

mutual

/-- Reads a part of a document. Collections by indentation may stand there if `inBlock`, and items without an
indentation of their own if `bare`. The fuel is no less than three times the number of tokens ahead. -/
def node (inBlock bare : Bool) : Nat → Reader Nat
  | 0 => fail (.expected "the node content")
  | fuel + 1 => do
    match ← peek with
    | some (.reference name) =>
      drop
      referenced name
    | _ =>
      let (anchor, tag) ← properties
      let next ← peek
      if let some name := anchor then
        if (← get).anchors.any (·.1 = name) then fail (.repeatedAnchor name)
      let text (codes : List Nat) (plain : Bool) : Reader Nat := addAt anchor (.ofText tag codes plain)
      let sequence : Reader (List Nat) → Reader Nat :=
        collection anchor (.sequence (Node.collectionTag tag .sequence))
      let mapping : Reader (List (Nat × Nat)) → Reader Nat :=
        collection anchor (.mapping (Node.collectionTag tag .mapping))
      let nothing : Reader Nat :=
        if anchor.isSome || tag.isSome then text [] true else fail (.expected "the node content")
      match next with
      | some .item => if bare then sequence (bareItems [] fuel) else nothing
      | some (.scalar codes plain) =>
        drop
        text codes plain
      | some .openBracket =>
        drop
        sequence (flowItems [] fuel)
      | some .openBrace =>
        drop
        mapping (flowEntries [] fuel)
      | t =>
        if inBlock && t = some .blockSequence then
          drop
          sequence (blockItems [] fuel)
        else if inBlock && t = some .blockMapping then
          drop
          mapping (blockEntries [] fuel)
        else nothing

def nodeUnless (ends : List Token) (inBlock bare : Bool) : Nat → Reader Nat
  | 0 => fail (.expected "the node content")
  | fuel + 1 => do if ← isNext ends then addEmpty else node inBlock bare fuel

/-- Reads the items of a sequence by indentation, behind those read so far, the last of them first. -/
def blockItems (done : List Nat) : Nat → Reader (List Nat)
  | 0 => fail (.expected "<block end>")
  | fuel + 1 => do
    if ← accept .item then
      let item ← nodeUnless [.item, .blockEnd] true false fuel
      blockItems (item :: done) fuel
    else if ← accept .blockEnd then return done.reverse
    else fail (.expected "<block end>")

/-- Reads items that have no indentation of their own. -/
def bareItems (done : List Nat) : Nat → Reader (List Nat)
  | 0 => fail (.expected "<block end>")
  | fuel + 1 => do
    if ← accept .item then
      let item ← nodeUnless [.item, .key, .value, .blockEnd] true false fuel
      bareItems (item :: done) fuel
    else return done.reverse

def blockEntries (done : List (Nat × Nat)) : Nat → Reader (List (Nat × Nat))
  | 0 => fail (.expected "<block end>")
  | fuel + 1 => do
    let ends : List Token := [.key, .value, .blockEnd]
    if ← accept .key then
      let key ← nodeUnless ends true true fuel
      let value ← if ← accept .value then nodeUnless ends true true fuel else addEmpty
      blockEntries ((key, value) :: done) fuel
    else if ← accept .blockEnd then return done.reverse
    else fail (.expected "<block end>")

def flowItems (done : List Nat) : Nat → Reader (List Nat)
  | 0 => fail (.expected "',' or ']'")
  | fuel + 1 => do
    if ← accept .closeBracket then return done.reverse
    if !done.isEmpty then
      if !(← accept .comma) then fail (.expected "',' or ']'")
    if ← accept .closeBracket then return done.reverse
    let item ←
      if ← accept .key then
        collection none (.mapping .mapping) do
          let key ← nodeUnless [.value, .comma, .closeBracket] false false fuel
          let value ←
            if ← accept .value then nodeUnless [.comma, .closeBracket] false false fuel else addEmpty
          return [(key, value)]
      else node false false fuel
    flowItems (item :: done) fuel

def flowEntries (done : List (Nat × Nat)) : Nat → Reader (List (Nat × Nat))
  | 0 => fail (.expected "',' or '\x7d'")
  | fuel + 1 => do
    if ← accept .closeBrace then return done.reverse
    if !done.isEmpty then
      if !(← accept .comma) then fail (.expected "',' or '\x7d'")
    if ← accept .closeBrace then return done.reverse
    let entry ←
      if ← accept .key then do
        let key ← nodeUnless [.value, .comma, .closeBrace] false false fuel
        let value ←
          if ← accept .value then nodeUnless [.comma, .closeBrace] false false fuel else addEmpty
        pure (key, value)
      else do
        let key ← node false false fuel
        pure (key, ← addEmpty)
    flowEntries (entry :: done) fuel

end

/-- Reads the directives in front of a document, given whether a version and which handles were read before. -/
def directives (version : Bool) (handles : List (String × String)) : Nat → Reader Unit
  | 0 => fail (.expected "'<document start>'")
  | fuel + 1 => do
    match ← peek with
    | some (.directive d) =>
      drop
      match d with
      | .version major _ =>
        if version then fail .repeatedDirective
        else if major ≠ 1 then fail .foreignVersion
        else directives true handles fuel
      | .handle handle start =>
        if handles.any (·.1 = handle) then fail .repeatedDirective
        else directives version ((handle, start) :: handles) fuel
      | .other => directives version handles fuel
    | _ => modify fun r => { r with handles := handles ++ usualHandles }

/-- Reads the directives and the mark in front of a document. -/
def documentStart (fuel : Nat) : Reader Unit := do
  directives false [] fuel
  if !(← accept .documentStart) then fail (.expected "'<document start>'")

/-- Whether a document has no content before this token. -/
def endsDocument : Option Token → Bool
  | none => true
  | some .documentStart | some .documentEnd | some (.directive _) => true
  | some _ => false

def content (fuel : Nat) : Reader Nat := do
  if endsDocument (← peek) then addEmpty else node true false fuel

/-- Goes behind the marks of the end of a document. -/
def documentEnds : Nat → Reader Unit
  | 0 => pure ()
  | fuel + 1 => do if ← accept .documentEnd then documentEnds fuel

def document (fuel : Nat) : Reader (Option Nat) := do
  modify fun r => { r with handles := usualHandles }
  match ← peek with
  | none => return none
  | first =>
    let root ←
      match first with
      | some (.directive _) | some .documentStart => do
        documentStart fuel
        content fuel
      | _ => node true false fuel
    documentEnds fuel
    if (← peek).isNone then return some root
    documentStart fuel
    fail .severalDocuments

end Reader

/-- The graph of the only document with its root, or nothing where there is no document at all. -/
def Graph.ofTokens? (tokens : Tokens) : Except Obstacle (Option (Graph × Nat)) := do
  let (root, r) ← (Reader.document (3 * tokens.list.length + 3)).run { tokens }
  return root.map fun n => (r.graph, n)

end Stemcell.Yaml
