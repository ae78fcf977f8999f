import Stemcell.Failure
import Stemcell.Files.Path
import Stemcell.Text.Utf8
/-!
Files in directories, with symbolic links between them. A path is walked name by name; a link on the way is
replaced by what it points to. Besides there are the files that the program has open, known by numbers, and those
whose names are no texts.
-/
namespace Stemcell

open Failure (SystemCode)

inductive FileNode where
  | file (data : List UInt8)
  | link (target : String)
  | directory (entries : List (String × FileNode))
  /-- A device: there is nothing in it to be read, or zeros without end. -/
  | device (isEndless : Bool)
  deriving Repr, Inhabited

namespace FileNode

def child? (name : String) : FileNode → Option FileNode
  | .directory entries => (entries.find? (·.1 = name)).map Prod.snd
  | _ => none

/-- What is at the end of a way of names, without following links. -/
def at? : List String → FileNode → Option FileNode
  | [], node => some node
  | name :: rest, node => (node.child? name).bind (at? rest)

def insert (name : String) (node : FileNode) : List (String × FileNode) → List (String × FileNode)
  | [] => [(name, node)]
  | e :: rest => if e.1 = name then (name, node) :: rest else e :: insert name node rest

/-- Puts `node` at the end of a way of names; directories on the way are made where there are none. -/
def place (node : FileNode) : List String → FileNode → FileNode
  | [], _ => node
  | name :: rest, parent =>
    let entries := match parent with | .directory entries => entries | _ => []
    let child := (parent.child? name).getD (.directory [])
    .directory (insert name (place node rest child) entries)

/-- A way of names followed from `here` on, at most `links` links deep, and a directory made wherever there is
nothing yet: the root with these directories, and the place where the way ends. -/
def make (root : FileNode) (links : Nat) (here : List String) : List String → FileNode × List String
  | [] => (root, here)
  | name :: rest =>
    if name = "" || name = "." then make root links here rest
    else if name = ".." then make root links here.dropLast rest
    else
      match (root.at? here).bind (child? name) with
      | some (.link target) =>
        match links with
        | 0 => (root, here)
        | links + 1 => make root links (if Path.isAbsolute target then [] else here) (Path.names target ++ rest)
      | some _ => make root links (here ++ [name]) rest
      | none => make (place (.directory []) (here ++ [name]) root) links (here ++ [name]) rest
  termination_by names => (links, names.length)

/-- Puts a file at the end of a way of names. A link at the end is followed, and the file is put where it points
to. -/
def write (data : List UInt8) (root : FileNode) (here names : List String) : Nat → FileNode
  | 0 => root
  | links + 1 =>
    let (root, parent) := make root links here names.dropLast
    let name := names.getLastD ""
    match (root.at? parent).bind (child? name) with
    | some (.link target) =>
      write data root (if Path.isAbsolute target then [] else parent) (Path.names target) links
    | _ => place (.file data) (parent ++ [name]) root

/-- The greatest length of a name in bytes. -/
def nameLimit : Nat := 255

/-- The greatest length of a path in bytes. -/
def pathLimit : Nat := 4095

/-- How many links are followed on one way. -/
def linkLimit : Nat := 40

/-- The place where a way ends that starts at `here`; at most `links` links are followed. -/
def walk (root : FileNode) (links : Nat) (here : List String) : List String → Except SystemCode (List String)
  | [] => .ok here
  | name :: rest =>
    match root.at? here with
    | some (.directory entries) =>
      if name = "" || name = "." then walk root links here rest
      else if name = ".." then walk root links here.dropLast rest
      else if nameLimit < name.utf8ByteSize then .error .nameTooLong
      else
        match entries.find? (·.1 = name) with
        | none => .error .noEntry
        | some (_, .link target) =>
          match links with
          | 0 => .error .tooManyLinks
          | links + 1 =>
            walk root links (if Path.isAbsolute target then [] else here) (Path.names target ++ rest)
        | some _ => walk root links (here ++ [name]) rest
    | _ => .error .notDirectory
  termination_by names => (links, names.length)

end FileNode

namespace Files

/-- Why nothing is found at a path. -/
inductive Refusal where
  | system (code : SystemCode)
  | fault (fault : Fault)

/-- A file that the program has open. -/
structure OpenFile where
  /-- Whether it is a file with contents, and no device, directory or connection. -/
  isPlain : Bool
  /-- What is read from it, or why nothing can be. -/
  rest : Except SystemCode (List UInt8)

end Files

/-- All files, and where the program works. -/
structure Files where
  root : FileNode := .directory []
  /-- The way from the root to the directory in which the program works. -/
  here : List String := []
  /-- The absolute path of that directory, as users read it. -/
  hereName : String := "/"
  opened : Nat → Option Files.OpenFile := fun _ => none
  /-- What is at a path whose bytes are no text, behind all links. -/
  untexted : List UInt8 → Except Files.Refusal FileNode := fun _ => .error (.system .noEntry)
  deriving Inhabited

namespace Files

/-- What is at a path, behind all links. -/
def find (files : Files) (path : String) : Except Refusal FileNode :=
  if path.toList.contains '\x00' then .error (.fault .embeddedNull)
  else if path.isEmpty then .error (.system .noEntry)
  else if FileNode.pathLimit < path.utf8ByteSize then .error (.system .nameTooLong)
  else
    let start := if Path.isAbsolute path then [] else files.here
    match FileNode.walk files.root FileNode.linkLimit start (Path.names path) with
    | .error code => .error (.system code)
    | .ok place =>
      match files.root.at? place with
      | some node => .ok node
      | none => .error (.system .noEntry)

def findBytes (files : Files) (path : List UInt8) : Except Refusal FileNode :=
  match Text.Utf8.decode? path with
  | some text => files.find (String.ofList text)
  | none => if path.contains 0 then .error (.fault .embeddedNull) else files.untexted path

/-- The bytes of a path of which the numbers of its characters are known. -/
def encoded? (codes : List Nat) : Option (List UInt8) :=
  if Value.isEncodable codes then
    some (codes.flatMap fun u =>
      if Text.Surrogate.isHalf u then [(u - 0xdc00).toUInt8] else String.utf8EncodeChar (Char.ofNat u))
  else none

def openAs? (files : Files) (n : Int) : Option OpenFile := if n < 0 then none else files.opened n.toNat

/-- Whether the result of a search is a file with contents. -/
def isPlainFile : Except Refusal FileNode → Bool
  | .ok (.file _) => true
  | _ => false

/-- The range of the numbers of open files. -/
def isDescriptor (n : Int) : Bool := -(Nat.pow 2 31 : Int) ≤ n && n < (Nat.pow 2 31 : Int)

/-- The number of an open file that a truth value is taken for. -/
def numberOf (b : Bool) : Int := if b then 1 else 0

/-- Whether there is a file with contents at a path. A number stands for an open file. -/
def isFile (files : Files) : Value → Except Fault Bool
  | .text path => .ok (isPlainFile (files.find path))
  | .bytes path => .ok (isPlainFile (files.findBytes path))
  | .ragged codes => .ok ((encoded? codes).any fun path => isPlainFile (files.findBytes path))
  | .bool b => .ok ((files.openAs? (numberOf b)).any OpenFile.isPlain)
  | .int n => if isDescriptor n then .ok ((files.openAs? n).any OpenFile.isPlain) else .error .descriptorTooLarge
  | v => .error (.notPath v.kind)

/-- How much of a file without an end is looked at. -/
def endless : Nat := Nat.pow 2 20

def contents (path : Value) : Except Refusal FileNode → Except Failure (List UInt8)
  | .ok (.file data) => .ok data
  | .ok (.device isEndless) => .ok (if isEndless then List.replicate endless 0 else [])
  | .ok _ => .error (.system .isDirectory (some path))
  | .error (.system code) => .error (.system code (some path))
  | .error (.fault f) => .error (.fault f)

/-- What is read from an open file. Only of a directory the number is told. -/
def readOpen (files : Files) (number : Value) (n : Int) : Except Failure (List UInt8) :=
  match files.openAs? n with
  | none => .error (.system .badDescriptor none)
  | some file =>
    match file.rest with
    | .ok data => .ok data
    | .error .isDirectory => .error (.system .isDirectory (some number))
    | .error code => .error (.system code none)

def read (files : Files) : Value → Except Failure (List UInt8)
  | .text path => contents (.text path) (files.find path)
  | .bytes path => contents (.bytes path) (files.findBytes path)
  | .ragged codes =>
    match encoded? codes with
    | some path => contents (.ragged codes) (files.findBytes path)
    | none => .error (.fault .unencodable)
  | .bool b => files.readOpen (.bool b) (numberOf b)
  | .int n =>
    if !isDescriptor n then .error (.fault (.notArgument .int))
    else if n < 0 then .error (.fault .negativeDescriptor)
    else files.readOpen (.int n) n
  | v => .error (.fault (.notArgument v.kind))

def absolute (files : Files) (path : String) : String := Path.absolute files.hereName path

/-- The files with one more of them, seen from where the program works. Directories on the way are made, and links
are followed; a link itself is put at the end of its way. -/
def add (path : String) (node : FileNode) (files : Files) : Files :=
  let start := if Path.isAbsolute path then [] else files.here
  let names := Path.names path
  let root :=
    match node with
    | .directory _ => (FileNode.make files.root FileNode.linkLimit start names).1
    | .file data => FileNode.write data files.root start names FileNode.linkLimit
    | node =>
      let (root, parent) := FileNode.make files.root FileNode.linkLimit start names.dropLast
      FileNode.place node (parent ++ [names.getLastD ""]) root
  { files with root }

end Files

end Stemcell
