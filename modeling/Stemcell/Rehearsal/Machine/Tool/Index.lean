import Stemcell.Rehearsal.Machine.Tool.Bytes
import Stemcell.Rehearsal.Machine.Tool.Edit
import Stemcell.Rehearsal.Machine.Tool.Order
import Stemcell.Rehearsal.Machine.Tool.Places
import Stemcell.Rehearsal.Machine.Tool.Search
import Stemcell.Rehearsal.Machine.Tool.Sum
import Stemcell.Rehearsal.Machine.Tool.Writing
/-!
The tools by their names.
-/
namespace Stemcell.Rehearsal.Machine.Tool

def writing? : String → Option (Call → ToolResult)
  | "true" => some fun _ => {}
  | "false" => some fun _ => { status := 1 }
  | "echo" => some echo
  | "printf" => some printf
  | "yes" => some yes
  | "seq" => some seq
  | "sleep" => some sleep
  | "basename" => some basename
  | "dirname" => some dirname
  | "printenv" => some printenv
  | "pwd" => some pwd
  | "test" | "[" => some test
  | "id" => some user
  | "whoami" | "logname" | "groups" => some fun _ => .ofLines ["root"]
  | "uname" => some uname
  | "tty" => some fun _ => { ToolResult.ofLines ["not a tty"] with status := 1 }
  | "nproc" => some fun _ => .ofLines ["1"]
  | "expr" => some expr
  | "factor" => some factor
  | _ => none

/-- The tools that turn texts into others. -/
def reading? : String → Option (Call → ToolResult)
  | "cat" => some cat
  | "tac" => some tac
  | "rev" => some rev
  | "tee" => some tee
  | "head" => some head
  | "tail" => some tail
  | "cut" => some cut
  | "fold" => some fold
  | "nl" => some nl
  | "wc" => some wc
  | "paste" => some paste
  | "comm" => some comm
  | "cmp" => some cmp
  | "sort" => some sort
  | "uniq" => some uniq
  | "tr" => some tr
  | "od" => some od
  | "base64" => some base64
  | "grep" | "egrep" | "fgrep" => some grep
  | "sed" => some sed
  | _ => none

/-- The tools that look after files. -/
def filing? : String → Option (Call → ToolResult)
  | "ls" => some ls
  | "mkdir" => some mkdir
  | "rmdir" => some rmdir
  | "touch" => some touch
  | "rm" => some rm
  | "cp" => some cp
  | "mv" => some mv
  | "ln" => some ln
  | "readlink" | "realpath" => some readlink
  | "which" => some which
  | _ => none

def find? (name : String) : Option (Call → ToolResult) :=
  ((writing? name).orElse fun _ => reading? name).orElse fun _ => filing? name

def reads (program : String) : Bool :=
  (reading? program).isSome || ["sh", "dash", "bash", "xargs"].contains program

/-- Whether a program writes nothing before its input has ended. -/
def waitsForEnd (program : String) : Bool := ["sort", "tac", "tail", "wc"].contains program

/-- Whether a path is that of a device from which bytes come without an end. -/
def isEndless (files : Files) (path : String) : Bool :=
  match Disk.node files (readable path) with
  | .ok (.device isEndless) => isEndless
  | _ => false

/-- Does what a program does. One that is not known ends at once. -/
def run (program : String) (call : Call) : ToolResult :=
  match find? program with
  | some tool =>
    let result := tool call
    if (reading? program).isSome && !result.stops && call.arguments.any (isEndless call.files) then
      { result with isEndless := true }
    else result
  | none => {}

end Stemcell.Rehearsal.Machine.Tool
