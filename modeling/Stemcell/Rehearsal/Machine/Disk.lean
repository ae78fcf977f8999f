import Stemcell.Files.Tree
import Stemcell.Rehearsal.Machine.Octets
/-!
The files that a machine has from the start, and what is done with files: finding what is at a path, putting
something there, and taking it away.
-/
namespace Stemcell.Rehearsal.Machine

open Failure (SystemCode)

def programNames : List String :=
  ["[", "arch", "awk", "base32", "base64", "basename", "bash", "cat", "chgrp", "chmod", "chown", "cksum", "clear",
    "cmp", "comm", "cp", "csplit", "cut", "dash", "date", "dd", "df", "diff", "dir", "dirname", "dpkg", "du", "echo",
    "egrep", "env", "expand", "expr", "factor", "false", "fgrep", "find", "fmt", "fold", "free", "getopt", "grep",
    "groups", "gunzip", "gzip", "head", "hostname", "id", "install", "join", "kill", "link", "ln", "login", "logname",
    "ls", "lsblk", "mawk", "md5sum", "mkdir", "mkfifo", "mknod", "mktemp", "more", "mount", "mv", "nice", "nl",
    "nohup", "nproc", "numfmt", "od", "passwd", "paste", "pathchk", "perl", "pinky", "pr", "printenv", "printf",
    "ps", "ptx", "pwd", "readlink", "realpath", "rev", "rm", "rmdir", "sed", "seq", "setsid", "sh", "sha1sum",
    "sha224sum", "sha256sum", "sha384sum", "sha512sum", "shred", "shuf", "sleep", "sort", "split", "stat", "stdbuf",
    "stty", "su", "sum", "sync", "tac", "tail", "tar", "tee", "test", "timeout", "touch", "tr", "true", "truncate",
    "tsort", "tty", "uname", "unexpand", "uniq", "unlink", "users", "vdir", "wc", "which", "who", "whoami", "xargs",
    "yes", "zcat"]

def accounts : String :=
  "root:x:0:0:root:/root:/bin/bash
daemon:x:1:1:daemon:/usr/sbin:/usr/sbin/nologin
bin:x:2:2:bin:/bin:/usr/sbin/nologin
sys:x:3:3:sys:/dev:/usr/sbin/nologin
sync:x:4:65534:sync:/bin:/bin/sync
nobody:x:65534:65534:nobody:/nonexistent:/usr/sbin/nologin
"

def machineRoot : FileNode :=
  let text (s : String) : FileNode := .file (bytesOf (octets s))
  let program : FileNode := .file [0x7f, 0x45, 0x4c, 0x46, 2, 1, 1, 0, 0xff]
  let none : FileNode := .directory []
  let device : FileNode := .device false
  .directory
    [("bin", .link "usr/bin"), ("boot", none),
      ("dev", .directory
        [("full", .device true), ("null", device), ("random", .device true), ("stderr", device), ("stdin", device),
          ("stdout", device), ("tty", device), ("urandom", .device true), ("zero", .device true)]),
      ("etc", .directory
        [("hostname", text "machine\n"), ("hosts", text "127.0.0.1\tlocalhost\n"), ("passwd", text accounts),
          ("group", text "root:x:0:\n"), ("shadow", text "root:*:19000:0:99999:7:::\n"), ("os-release", text "ID=debian\n")]),
      ("home", none), ("lib", .link "usr/lib"), ("media", none), ("mnt", none), ("opt", none), ("proc", none),
      ("root", none), ("run", none), ("sbin", .link "usr/sbin"), ("srv", none), ("sys", none), ("tmp", none),
      ("usr", .directory
        [("bin", .directory (programNames.map fun name => (name, program))), ("games", none), ("include", none),
          ("lib", none), ("local", .directory [("bin", none), ("lib", none)]), ("sbin", none), ("share", none)]),
      ("var", .directory [("lib", none), ("log", none), ("tmp", none)])]

def scratchName : String := "<cwd>"

/-- The files of the machine with an empty directory to work in. -/
def scratch : Files :=
  { root := FileNode.place (.directory []) ["tmp", scratchName] machineRoot
    here := ["tmp", scratchName]
    hereName := scratchName }

namespace Disk

/-- The names in a path that count: those that are not empty. -/
def steps (path : String) : List String := (Path.names path).filter (· ≠ "")

def start (files : Files) (path : String) : List String := if Path.isAbsolute path then [] else files.here

/-- The place that a path leads to behind all links. -/
def way (files : Files) (path : String) : Except SystemCode (List String) :=
  if path.isEmpty then .error .noEntry
  else FileNode.walk files.root FileNode.linkLimit (start files path) (Path.names path)

/-- What is at a path, behind all links. -/
def node (files : Files) (path : String) : Except SystemCode FileNode := do
  match files.root.at? (← way files path) with
  | some node => return node
  | none => throw .noEntry

/-- The directory that the last name of a path stands in, and the name. -/
def entry (files : Files) (path : String) : Except SystemCode (List String × String) := do
  if path.isEmpty then throw .noEntry
  else
    let names := steps path
    let parent ← FileNode.walk files.root FileNode.linkLimit (start files path) names.dropLast
    match files.root.at? parent with
    | some (.directory _) =>
      match names.getLast? with
      | none => return ([], "")
      | some name => if FileNode.nameLimit < name.utf8ByteSize then throw .nameTooLong else return (parent, name)
    | _ => throw .notDirectory

/-- What the last name of a path stands for, without following it if it is a link. -/
def plainNode (files : Files) (path : String) : Except SystemCode FileNode := do
  let (parent, name) ← entry files path
  match if name = "" then files.root.at? parent else (files.root.at? parent).bind (FileNode.child? name) with
  | some node => return node
  | none => throw .noEntry

def put (files : Files) (way : List String) (node : FileNode) : Files := { files with root := node.place way files.root }

/-- A tree without what is at the end of a way. -/
def without : List String → FileNode → FileNode
  | [], root => root
  | [name], .directory entries => .directory (entries.filter (·.1 ≠ name))
  | name :: rest, .directory entries =>
    .directory (entries.map fun e => if e.1 = name then (name, without rest e.2) else e)
  | _, node => node

def remove (files : Files) (way : List String) : Files := { files with root := without way files.root }

/-- The place where a file can be made at a path, following a link that is there. -/
def target (files : Files) (path : String) : Nat → Except SystemCode (List String)
  | 0 => .error .tooManyLinks
  | links + 1 => do
    let (parent, name) ← entry files path
    match (files.root.at? parent).bind (FileNode.child? name) with
    | some (.link goal) => target { files with here := parent } goal links
    | found =>
      if ["", ".", ".."].contains name then throw .isDirectory
      else if path.endsWith "/" then
        match found with
        | some (.file _) | some (.device _) => throw .notDirectory
        | _ => throw .isDirectory
      else return parent ++ [name]

/-- The names in a directory, in the order of their bytes. -/
def names (node : FileNode) : List String :=
  match node with
  | .directory entries => (entries.map Prod.fst).mergeSort fun a b => a ≤ b
  | _ => []

/-- The contents of a file with some bytes written at a place in it. -/
def overwrite (data : List UInt8) (offset : Nat) (more : List UInt8) : List UInt8 :=
  data.take offset ++ List.replicate (offset - data.length) 0 ++ more ++ data.drop (offset + more.length)

def contents (files : Files) (way : List String) : List UInt8 :=
  match files.root.at? way with
  | some (.file data) => data
  | some (.device true) => List.replicate Files.endless 0
  | _ => []

end Disk

end Stemcell.Rehearsal.Machine
