import Stemcell.Text.Search
/-!
Paths: names with slashes between them. An absolute path starts at the root, any other one where the program
works.
-/
namespace Stemcell.Path

def isAbsolute (path : String) : Bool := path.toList.head? = some '/'

/-- The names in a path; before a leading slash, behind a last one and between two slashes there is an empty
one. -/
def names (path : String) : List String := Text.split '/' path

def join (directory name : String) : String :=
  if isAbsolute name then name
  else if directory.isEmpty || directory.toList.getLast? = some '/' then directory ++ name
  else directory ++ "/" ++ name

/-- Adds a name to the names of a path, the last one first: `..` takes away the name before it, except above
the root, and in a path that starts elsewhere it stays where there is no name to take away. -/
def push (absolute : Bool) (done : List String) (name : String) : List String :=
  if name = "" || name = "." then done
  else if name = ".." then
    match done with
    | [] => if absolute then [] else [name]
    | ".." :: _ => name :: done
    | _ :: rest => rest
  else name :: done

/-- The slashes at the front of a normal path: two stay two, more than two count as one. -/
def root (path : String) : String :=
  match path.toList with
  | '/' :: '/' :: '/' :: _ => "/"
  | '/' :: '/' :: _ => "//"
  | '/' :: _ => "/"
  | _ => ""

/-- A path without detours: no empty names, no `.`, and `..` only at the front of one that is not absolute. -/
def normal (path : String) : String :=
  let done := (names path).foldl (push (isAbsolute path)) []
  let text := root path ++ Text.join "/" done.reverse
  if text.isEmpty then "." else text

/-- The absolute path without detours for a path seen from a directory. -/
def absolute (directory path : String) : String := normal (join directory path)

example : absolute "/a/b" "../c//./d/" = "/a/c/d" := by decide +kernel
example : normal "sub/../../x/.." = ".." := by decide +kernel

end Stemcell.Path
