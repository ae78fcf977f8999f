import Stemcell.Config.Settings
import Stemcell.Files.Tree
import Stemcell.Yaml.Document
/-!
Parameters from a file: a YAML mapping in which every key is a parameter. A file without a document gives nothing.
-/
namespace Stemcell.Config

def isKnown (key : Value) : Bool := Field.all.any fun f => key.sameKey (.text f.key)

/-- Keys as texts, by the numbers of their characters. With keys of other kinds the complaint is that of one
other key alone; which keys it is about where there are more depends on the order of a set, and its words are
not kept. -/
def keyTexts (place : Nat) : List Value → Except Fault (List (List Nat))
  | [] => .ok []
  | v :: rest =>
    match v.codes? with
    | some codes => (keyTexts (place + 1) rest).map (codes :: ·)
    | none => .error (.notJoined place v.kind)

/-- Texts in the order of their characters. -/
def sorted (texts : List (List Nat)) : List (List Nat) := texts.mergeSort fun a b => !(b < a)

/-- The entries of a document that a file has. Values are looked at only if all keys are known. -/
def entriesOf (path : Value) (document : Yaml.Document) : Except Failure (List (Value × Value)) :=
  if document.isNull then .ok []
  else
    match document.entries? with
    | none => .error (.config (.notMapping path))
    | some entries =>
      match (entries.map Prod.fst).filter (!isKnown ·) with
      | [] => .ok (document.fields entries)
      | unknown =>
        match keyTexts 0 unknown with
        | .ok texts => .error (.config (.unknownKeys path ((sorted texts).map Yaml.Node.textOf)))
        | .error f => .error (.fault f)

/-- What a failure to read a file comes to: only that it is not there is a problem of the parameters. -/
def fileFailure (path : Value) (f : Failure) : Failure :=
  match f with
  | .system .noEntry _ => .config (.fileNotFound path)
  | f => f

def load (files : Files) (path : Value) : Except Failure (List (Value × Value)) := do
  let data ← (files.read path).mapError (fileFailure path)
  match Yaml.Document.ofBytes data with
  | .ok none => return []
  | .ok (some document) => entriesOf path document
  | .error (.problem p) => throw (.config (.notYaml p.message))
  | .error (.fault f) => throw (.fault f)

/-- The parameters from flags, an environment and, if a path is given, a file. -/
def resolve (files : Files) (environ : Environment) (path : Value) (flags : Field → Value) :
    Except Failure Settings := do
  let entries ← if path.isTruthy then load files path else pure []
  return .resolve flags environ entries

end Stemcell.Config
