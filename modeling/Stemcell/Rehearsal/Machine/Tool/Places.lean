import Stemcell.Rehearsal.Machine.SearchPath
import Stemcell.Rehearsal.Machine.Tool.Writing
/-!
Tools that show and change the files of the machine.
-/
namespace Stemcell.Rehearsal.Machine.Tool

open Failure (SystemCode)

/-- The names in a directory as a list shows them. -/
def listed (c : Choices) (node : FileNode) : List String :=
  let isHidden (name : String) : Bool := name.startsWith "."
  let names := (Disk.names node).map octets
  let names :=
    if c.has 'a' then "." :: ".." :: names
    else if c.has 'A' then names
    else names.filter (!isHidden ·)
  if c.has 'r' then names.reverse else names

def marked (c : Choices) (node : Option FileNode) (name : String) : String :=
  match node with
  | some (.directory _) => if c.has 'F' || c.has 'p' then name ++ "/" else name
  | some (.link _) => if c.has 'F' then name ++ "@" else name
  | _ => name

/-- The names below a directory, each directory with its path above. -/
def listTree (c : Choices) (isRecursive : Bool) : Nat → String → FileNode → List String
  | 0, _, _ => []
  | fuel + 1, path, node =>
    let names := listed c node
    let own := names.map fun name => marked c (FileNode.child? (readable name) node) name
    let below := if !isRecursive then [] else names.filterMap fun name =>
      match FileNode.child? (readable name) node with
      | some (.directory entries) => if name = "." || name = ".." then none else some (name, FileNode.directory entries)
      | _ => none
    own ++ below.flatMap fun (name, inner) =>
      let path := path ++ "/" ++ name
      "" :: (path ++ ":") :: listTree c isRecursive fuel path inner

/-- Lists names. -/
def ls (call : Call) : ToolResult :=
  let known : List Choice :=
    "1aAdFprRCxhtSUqQ".toList.map (fun letter => ({ letter } : Choice))
      ++ [⟨'a', "all", false⟩, ⟨'A', "almost-all", false⟩, ⟨'d', "directory", false⟩, ⟨'R', "recursive", false⟩,
        ⟨'r', "reverse", false⟩]
  match Choices.read known false call.arguments with
  | .error message => call.usage message 2
  | .ok c =>
    let paths := (if c.rest.isEmpty then ["."] else c.rest).mergeSort fun a b => a ≤ b
    let paths := if c.has 'r' then paths.reverse else paths
    let found := paths.map fun path => (path, Disk.node call.files (readable path))
    let messages := found.filterMap fun (path, r) =>
      match r with
      | .error code => some s!"{call.name}: cannot access {quotedName path}: {code.words}"
      | .ok _ => none
    let isDirectory (node : FileNode) : Bool := match node with | .directory _ => !c.has 'd' | _ => false
    let nodes := found.filterMap fun (path, r) => match r with | .ok node => some (path, node) | .error _ => none
    let plain := (nodes.filter fun e => !isDirectory e.2).map fun e => marked c (some e.2) e.1
    let directories := nodes.filter fun e => isDirectory e.2
    let needsTitle := 1 < paths.length || c.has 'R'
    let blocks := directories.map fun (path, node) =>
      (if needsTitle then [path ++ ":"] else []) ++ listTree c (c.has 'R') 64 path node
    let blocks := if plain.isEmpty then blocks else plain :: blocks
    { (ToolResult.ofLines (([""] : List String).intercalate blocks)).complaining messages with
      status := if messages.isEmpty then 0 else 2 }

/-- What a change of files has come to. -/
structure Change where
  files : Files
  messages : List String := []
  said : List String := []

def Change.complain (s : Change) (message : String) : Change := { s with messages := s.messages ++ [message] }

def Change.result (s : Change) : ToolResult :=
  { (ToolResult.ofLines s.said).complaining s.messages with files := some s.files }

/-- The beginnings of a path, each with one name more. -/
def beginnings (path : String) : List String :=
  let names := Disk.steps path
  let front := if Path.isAbsolute path then "/" else ""
  (List.range names.length).map fun k => front ++ Text.join "/" (names.take (k + 1))

/-- Makes directories. -/
def mkdir (call : Call) : ToolResult :=
  let known : List Choice := [⟨'p', "parents", false⟩, ⟨'v', "verbose", false⟩, ⟨'m', "mode", true⟩]
  call.choosing known fun c =>
    counted call 1 none c.rest fun _ =>
      let refuse (s : Change) (path : String) (words : String) : Change :=
        s.complain s!"{call.name}: cannot create directory {quotedName path}: {words}"
      let make (isParent : Bool) (s : Change) (path : String) : Change :=
        match Disk.node s.files (readable path), Disk.entry s.files (readable path) with
        | .ok (.directory _), _ => if isParent then s else refuse s path "File exists"
        | .ok _, _ => refuse s path (if isParent then "Not a directory" else "File exists")
        | .error _, .error code => refuse s path code.words
        | .error _, .ok (parent, name) =>
          let said := if c.has 'v' then [s!"{call.name}: created directory {quotedName path}"] else []
          { s with files := Disk.put s.files (parent ++ [name]) (.directory []), said := s.said ++ said }
      let step (s : Change) (path : String) : Change :=
        if c.has 'p' then
          (beginnings path).foldl (fun s p => if s.messages.isEmpty then make true s p else s) s
        else make false s path
      (c.rest.foldl step { files := call.files }).result

/-- Takes empty directories away. -/
def rmdir (call : Call) : ToolResult :=
  let known : List Choice := [⟨'p', "parents", false⟩, ⟨'v', "verbose", false⟩]
  call.choosing known fun c =>
    counted call 1 none c.rest fun _ =>
      let drop (s : Change) (path : String) : Change :=
        let refuse (words : String) : Change := s.complain s!"{call.name}: failed to remove {quotedName path}: {words}"
        match Disk.plainNode s.files (readable path), Disk.entry s.files (readable path) with
        | .ok (.directory []), .ok (parent, name) => { s with files := Disk.remove s.files (parent ++ [name]) }
        | .ok (.directory _), _ => refuse "Directory not empty"
        | .ok _, _ => refuse "Not a directory"
        | .error code, _ => refuse code.words
      let step (s : Change) (path : String) : Change :=
        if c.has 'p' then (beginnings path).reverse.foldl drop s else drop s path
      (c.rest.foldl step { files := call.files }).result

/-- Makes files that are not there. -/
def touch (call : Call) : ToolResult :=
  let known : List Choice :=
    [⟨'a', "", false⟩, ⟨'m', "", false⟩, ⟨'c', "no-create", false⟩, ⟨'d', "date", true⟩, ⟨'t', "", true⟩,
      ⟨'r', "reference", true⟩]
  call.choosing known fun c =>
    if c.rest.isEmpty then call.usage "missing file operand"
    else
      let step (s : Change) (path : String) : Change :=
        match Disk.node s.files (readable path), Disk.target s.files (readable path) FileNode.linkLimit with
        | .ok _, _ => s
        | .error _, .ok way => if c.has 'c' then s else { s with files := Disk.put s.files way (.file []) }
        | .error _, .error code => s.complain s!"{call.name}: cannot touch {quotedName path}: {code.words}"
      (c.rest.foldl step { files := call.files }).result

/-- Takes files away. -/
def rm (call : Call) : ToolResult :=
  let known : List Choice :=
    [⟨'r', "recursive", false⟩, ⟨'R', "", false⟩, ⟨'f', "force", false⟩, ⟨'v', "verbose", false⟩, ⟨'d', "dir", false⟩,
      ⟨'i', "", false⟩]
  call.choosing known fun c =>
    if c.rest.isEmpty then if c.has 'f' then {} else call.usage "missing operand"
    else
      let isDeep := c.has 'r' || c.has 'R'
      let step (s : Change) (path : String) : Change :=
        let refuse (words : String) : Change := s.complain s!"{call.name}: cannot remove {quotedName path}: {words}"
        let drop : Change :=
          match Disk.entry s.files (readable path) with
          | .ok (parent, name) =>
            let said := if c.has 'v' then [s!"removed {quotedName path}"] else []
            { s with files := Disk.remove s.files (parent ++ [name]), said := s.said ++ said }
          | .error code => refuse code.words
        match Disk.plainNode s.files (readable path) with
        | .error code => if c.has 'f' && code = .noEntry then s else refuse code.words
        | .ok (.directory entries) =>
          if isDeep || (c.has 'd' && entries.isEmpty) then drop else refuse "Is a directory"
        | .ok _ => drop
      (c.rest.foldl step { files := call.files }).result

/-- The place of a copy: inside a goal that is a directory, or the goal itself. -/
def goalOf (files : Files) (source goal : String) : String :=
  match Disk.node files (readable goal) with
  | .ok (.directory _) => Path.join goal (lastName source)
  | _ => goal

/-- Does something with each source and its place at a goal. -/
def toGoal (call : Call) (c : Choices) (step : Change → String → String → Change) : ToolResult :=
  let (sources, goal?) :=
    match c.value? 't' with
    | some goal => (c.rest, some goal)
    | none => (c.rest.dropLast, if c.rest.length < 2 then none else c.rest.getLast?)
  match sources, goal?, c.rest with
  | _, none, [] => call.usage "missing file operand"
  | _, none, only :: _ => call.usage s!"missing destination file operand after {quotedName only}"
  | sources, some goal, _ =>
    let isDirectory : Bool := match Disk.node call.files (readable goal) with | .ok (.directory _) => true | _ => false
    if 1 < sources.length && !isDirectory then call.refuse s!"target {quotedName goal}: No such file or directory"
    else
      (sources.foldl (fun s source =>
        step s source (if c.has 'T' then goal else goalOf s.files source goal)) { files := call.files }).result

/-- Copies files. -/
def cp (call : Call) : ToolResult :=
  let known : List Choice :=
    [⟨'r', "recursive", false⟩, ⟨'R', "", false⟩, ⟨'a', "archive", false⟩, ⟨'f', "force", false⟩, ⟨'p', "", false⟩,
      ⟨'v', "verbose", false⟩, ⟨'n', "no-clobber", false⟩, ⟨'t', "target-directory", true⟩, ⟨'T', "", false⟩,
      ⟨'i', "", false⟩, ⟨'u', "", false⟩]
  call.choosing known fun c =>
    toGoal call c fun s source goal =>
      match Disk.node s.files (readable source), Disk.target s.files (readable goal) FileNode.linkLimit with
      | .error code, _ => s.complain s!"{call.name}: cannot stat {quotedName source}: {code.words}"
      | .ok (.directory entries), .ok way =>
        if c.has 'r' || c.has 'R' || c.has 'a' then { s with files := Disk.put s.files way (.directory entries) }
        else s.complain s!"{call.name}: -r not specified; omitting directory {quotedName source}"
      | .ok node, .ok way =>
        let isSame : Bool := (Disk.way s.files (readable source)).toOption = some way
        let data : FileNode := match node with | .device _ => .file [] | node => node
        if isSame then s.complain s!"{call.name}: {quotedName source} and {quotedName goal} are the same file"
        else if c.has 'n' && (s.files.root.at? way).isSome then s
        else
          let said := if c.has 'v' then [s!"{quotedName source} -> {quotedName goal}"] else []
          { s with files := Disk.put s.files way data, said := s.said ++ said }
      | .ok _, .error code =>
        s.complain s!"{call.name}: cannot create regular file {quotedName goal}: {code.words}"

/-- Moves files. -/
def mv (call : Call) : ToolResult :=
  let known : List Choice :=
    [⟨'f', "force", false⟩, ⟨'v', "verbose", false⟩, ⟨'n', "no-clobber", false⟩, ⟨'t', "target-directory", true⟩,
      ⟨'T', "", false⟩, ⟨'i', "", false⟩, ⟨'u', "", false⟩]
  call.choosing known fun c =>
    toGoal call c fun s source goal =>
      match Disk.plainNode s.files (readable source), Disk.entry s.files (readable source),
        Disk.entry s.files (readable goal) with
      | .error code, _, _ | _, .error code, _ =>
        s.complain s!"{call.name}: cannot stat {quotedName source}: {code.words}"
      | .ok _, .ok _, .error code =>
        s.complain s!"{call.name}: cannot move {quotedName source} to {quotedName goal}: {code.words}"
      | .ok node, .ok (parent, name), .ok (place, newName) =>
        if (parent, name) = (place, newName) then
          s.complain s!"{call.name}: {quotedName source} and {quotedName goal} are the same file"
        else
          let said := if c.has 'v' then [s!"renamed {quotedName source} -> {quotedName goal}"] else []
          { s with
            files := Disk.put (Disk.remove s.files (parent ++ [name])) (place ++ [newName]) node
            said := s.said ++ said }

/-- Makes links. A hard link is a copy here. -/
def ln (call : Call) : ToolResult :=
  let known : List Choice :=
    [⟨'s', "symbolic", false⟩, ⟨'f', "force", false⟩, ⟨'n', "no-dereference", false⟩, ⟨'v', "verbose", false⟩,
      ⟨'T', "", false⟩, ⟨'t', "target-directory", true⟩]
  call.choosing known fun c =>
    let c := if c.rest.length = 1 then { c with rest := c.rest ++ ["."] } else c
    toGoal call c fun s source goal =>
      let kind := if c.has 's' then "symbolic link" else "hard link"
      match Disk.entry s.files (readable goal), Disk.plainNode s.files (readable goal) with
      | .error code, _ => s.complain s!"{call.name}: failed to create {kind} {quotedName goal}: {code.words}"
      | .ok (parent, name), there =>
        if there.isOk && !c.has 'f' then
          s.complain s!"{call.name}: failed to create {kind} {quotedName goal}: File exists"
        else if c.has 's' then { s with files := Disk.put s.files (parent ++ [name]) (.link (readable source)) }
        else
          match Disk.node s.files (readable source) with
          | .ok (.directory _) => s.complain s!"{call.name}: {source}: hard link not allowed for directory"
          | .ok node => { s with files := Disk.put s.files (parent ++ [name]) node }
          | .error code => s.complain s!"{call.name}: failed to access {quotedName source}: {code.words}"

/-- Writes where links point, or paths without links. -/
def readlink (call : Call) : ToolResult :=
  let known : List Choice :=
    [⟨'f', "canonicalize", false⟩, ⟨'e', "canonicalize-existing", false⟩, ⟨'m', "canonicalize-missing", false⟩,
      ⟨'n', "no-newline", false⟩, ⟨'q', "", false⟩, ⟨'s', "", false⟩, ⟨'v', "", false⟩]
  call.choosing known fun c =>
    counted call 1 none c.rest fun _ =>
      let physical (way : List String) : String := "/" ++ octets (Text.join "/" way)
      let canonical := call.name = "realpath" || c.has 'f' || c.has 'e' || c.has 'm'
      let found := c.rest.map fun path =>
        if canonical then
          match Disk.way call.files (readable path) with
          | .ok way => some (physical way)
          | .error _ =>
            if c.has 'e' then none
            else (Disk.target call.files (readable path) FileNode.linkLimit).toOption.map physical
        else
          match Disk.plainNode call.files (readable path) with
          | .ok (.link goal) => some (octets goal)
          | _ => none
      let failed := (c.rest.zip found).filter fun e => e.2.isNone
      let messages := if call.name ≠ "realpath" then [] else failed.map fun (path, _) =>
        call.usual path .noEntry
      let text := Text.join "\n" (found.filterMap id)
      let lineEnd := if c.has 'n' || text.isEmpty then "" else "\n"
      { (ToolResult.ofText (text ++ lineEnd)).complaining messages with status := if failed.isEmpty then 0 else 1 }

/-- Writes the paths of programs. -/
def which (call : Call) : ToolResult :=
  call.choosing [⟨'a', "", false⟩, ⟨'s', "", false⟩] fun c =>
    let searchPath := (call.environ.lookup "PATH").getD SearchPath.usual
    let found := c.rest.map fun name => (SearchPath.locate call.files searchPath name).toOption
    { ToolResult.ofLines (found.filterMap fun e => e.map Prod.fst) with
      status := if found.all Option.isSome && !c.rest.isEmpty then 0 else 1 }

end Stemcell.Rehearsal.Machine.Tool
