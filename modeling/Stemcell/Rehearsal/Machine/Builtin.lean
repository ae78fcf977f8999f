import Stemcell.Rehearsal.Machine.Condition
import Stemcell.Rehearsal.Machine.Expansion
import Stemcell.Rehearsal.Machine.Format
import Stemcell.Rehearsal.Machine.SearchPath
/-!
The commands that are parts of the shell, as far as they do not run other commands.
-/
namespace Stemcell.Rehearsal.Machine.Builtin

/-- The parts of the shell whose failure ends it. -/
def specialNames : List String :=
  [".", ":", "break", "continue", "eval", "exec", "exit", "export", "local", "readonly", "return", "set", "shift",
    "times", "trap", "unset"]

/-- The other parts of the shell. -/
def regularNames : List String :=
  ["[", "alias", "bg", "cd", "chdir", "command", "echo", "false", "fg", "getopts", "hash", "jobs", "kill", "printf",
    "pwd", "read", "test", "true", "type", "ulimit", "umask", "unalias", "wait"]

/-- The value of a number without a sign. -/
def number (s : String) : Run Nat := do
  match decimal? s with
  | some n => return n
  | none => Run.fail s!"Illegal number: {s}"

/-- Takes options off the front of arguments: their letters, and what is left. -/
def options (known : String) (found : List Char) : List String → Run (List Char × List String)
  | [] => return (found, [])
  | argument :: rest => do
    match argument.toList with
    | ['-', '-'] => return (found, rest)
    | '-' :: c :: more =>
      match (c :: more).find? (!known.toList.contains ·) with
      | some wrong => Run.fail s!"Illegal option -{String.singleton wrong}"
      | none => options known (found ++ c :: more) rest
    | _ => return (found, argument :: rest)

/-- A text between quotes, which stand between quotes of the other kind themselves. -/
def quoted (s : String) : String :=
  let rec go (fuel : Nat) (s : List Char) : List Char :=
    match fuel with
    | 0 => []
    | fuel + 1 =>
      let chunk := s.takeWhile (· ≠ '\'')
      let rest := s.drop chunk.length
      let quotes := rest.takeWhile (· = '\'')
      let rest := rest.drop quotes.length
      let first := '\'' :: chunk ++ ['\'']
      if quotes.isEmpty then first
      else first ++ '"' :: quotes ++ '"' :: (if rest.isEmpty then [] else go fuel rest)
  String.ofList (go (s.length + 1) s.toList)

/-! ### Writing -/

/-- Writes a text as the output of a part of the shell. -/
def output (name text : String) : Run Unit := do
  if ← Run.write 1 text then Run.setStatus 0
  else
    Run.complain s!"{name}: I/O error"
    Run.setStatus 1

def printf (arguments : List String) : Run Unit := do
  let (text, complaints, status) := Format.printed .shell arguments
  complaints.forM fun c => Run.complain (c.message .shell)
  output "printf" text
  if status ≠ 0 then Run.setStatus status

def test (name : String) (words : List String) : Run Unit := do
  match Condition.status (← Run.files) name words with
  | (status, none) => Run.setStatus status
  | (_, some problem) => Run.fail problem.message

/-! ### Places -/

/-- The path of a place without links. -/
def physical (way : List String) : String := "/" ++ octets (Text.join "/" way)

/-- Goes to a directory, from which the shell can come back. -/
def goTo (way : List String) (name : String) : Run Unit := do
  let old := octets (← Run.files).hereName
  Run.setMachine fun m => { m with files := { m.files with here := way, hereName := readable name } }
  Run.assign "OLDPWD" old
  Run.assign "PWD" name
  ["OLDPWD", "PWD"].forM fun n => Run.changeVariable n fun v => { v with isExported := true }

/-- Goes to the directory with a name, seen from one of the directories that are looked through. -/
def enter (isPhysical : Bool) (goal : String) : List String → Run Bool
  | [] => return false
  | base :: rest => do
    let files ← Run.files
    let path := if base.isEmpty then goal else Path.join base goal
    let path := if isPhysical then path else Path.absolute (octets files.hereName) path
    match Disk.way files (readable path) with
    | .ok way =>
      match files.root.at? way with
      | some (.directory _) =>
        let name := if isPhysical then physical way else path
        goTo way name
        if !base.isEmpty then Run.say (name ++ "\n")
        return true
      | _ => enter isPhysical goal rest
    | .error _ => enter isPhysical goal rest

def cd (arguments : List String) : Run Unit := do
  let (letters, rest) ← options "LP" [] arguments
  let goal? ←
    match rest.head? with
    | some goal => pure (some goal)
    | none => Run.value? "HOME"
  match goal? with
  | none => Run.setStatus 0
  | some goal =>
    let isBack := rest.head? = some "-"
    let goal ← if isBack then pure ((← Run.value? "OLDPWD").getD (octets (← Run.files).hereName)) else pure goal
    let isPlain := Path.isAbsolute goal || goal = "." || goal = ".." || goal.startsWith "./" || goal.startsWith "../"
    let bases := Text.split ':' ((← Run.value? "CDPATH").getD "")
    let isPhysical := letters.getLast? = some 'P'
    if ← enter isPhysical goal (if isPlain then [""] else bases ++ [""]) then
      if isBack then Run.say (octets (← Run.files).hereName ++ "\n")
      Run.setStatus 0
    else Run.fail s!"can't cd to {goal}"

/-- Writes the name of the directory. -/
def pwd (arguments : List String) : Run Unit := do
  let (letters, _) ← options "LP" [] arguments
  let files ← Run.files
  output "pwd" ((if letters.getLast? = some 'P' then physical files.here else octets files.hereName) ++ "\n")

/-! ### Variables and options -/

/-- Writes variables in the order of their names. -/
def listVariables (mark : String) (wanted : Variable → Bool) : Run Unit := do
  let found := (← Run.shell).bindings.filter fun e => wanted e.2
  let sorted := found.mergeSort fun a b => a.1 ≤ b.1
  Run.say (ofLines (sorted.map fun (name, v) =>
    mark ++ name ++ match v.value with | some value => "=" ++ quoted value | none => ""))

/-- The name and the value in an argument that may be an assignment. -/
def split (argument : String) : String × Option String :=
  let name := String.ofList (argument.toList.takeWhile (· ≠ '='))
  (name, if argument.length = name.length then none else some (argument.drop (name.length + 1)).toString)

/-- Does something to the variables in arguments, after those with values were given them. -/
def mark (change : String → Run Unit) (arguments : List String) : Run Unit := do
  arguments.forM fun argument => do
    let (name, value?) := split argument
    if !isName name then Run.fail s!"{argument}: bad variable name"
    if let some value := value? then Run.assign name value
    change name
  Run.setStatus 0

/-- Gives variables to programs. -/
def exporting (arguments : List String) : Run Unit := do
  let (letters, rest) ← options "p" [] arguments
  if rest.isEmpty || letters.contains 'p' then
    listVariables "export " Variable.isExported
    Run.setStatus 0
  else mark (fun name => Run.changeVariable name fun v => { v with isExported := true }) rest

/-- Makes variables keep their values. -/
def locking (arguments : List String) : Run Unit := do
  let (letters, rest) ← options "p" [] arguments
  if rest.isEmpty || letters.contains 'p' then
    listVariables "readonly " Variable.isReadonly
    Run.setStatus 0
  else mark (fun name => Run.changeVariable name fun v => { v with isReadonly := true }) rest

/-- Makes variables belong to the function at work. -/
def owning (arguments : List String) : Run Unit := do
  match (← Run.shell).saved with
  | none => Run.fail "not in a function"
  | some _ =>
    let keep (name : String) : Run Unit := do
      let old ← Run.find? name
      Run.setShell fun sh => { sh with saved := sh.saved.map ((name, old) :: ·) }
    arguments.forM fun argument => do
      let (name, value?) := split argument
      if !isName name then Run.fail s!"{argument}: bad variable name"
      keep name
      if let some value := value? then Run.assign name value
    Run.setStatus 0

/-- Takes variables or functions away. -/
def unset (arguments : List String) : Run Unit := do
  let (letters, names) ← options "fv" [] arguments
  names.forM fun name => do
    if letters.contains 'f' then
      Run.setShell fun sh => { sh with functions := sh.functions.filter (·.1 ≠ name) }
    else
      if !isName name then Run.fail s!"{name}: bad variable name"
      Run.unsetVariable name
  Run.setStatus 0

def optionNames : List (String × Char) :=
  [("errexit", 'e'), ("noglob", 'f'), ("ignoreeof", 'I'), ("interactive", 'i'), ("monitor", 'm'), ("noexec", 'n'),
    ("stdin", 's'), ("xtrace", 'x'), ("verbose", 'v'), ("vi", 'V'), ("emacs", 'E'), ("noclobber", 'C'),
    ("allexport", 'a'), ("notify", 'b'), ("nounset", 'u'), ("privileged", 'p'), ("nolog", 'L'), ("debug", 'D')]

def turn (isOn : Bool) (letter : Char) : Run Unit :=
  Run.setShell fun sh =>
    { sh with options := (sh.options.filter (· ≠ letter)) ++ if isOn then [letter] else [] }

def listOptions (isOn : Bool) : Run Unit := do
  let set := (← Run.shell).options
  if isOn then
    Run.say (ofLines ("Current option settings" :: optionNames.map fun (name, letter) =>
      name ++ String.ofList (List.replicate (16 - name.length) ' ') ++ if set.contains letter then "on" else "off"))
  else
    Run.say (ofLines (optionNames.map fun (name, letter) =>
      "set " ++ (if set.contains letter then "-" else "+") ++ "o " ++ name))

/-- Makes arguments the arguments of the script. -/
def setParameters (parameters : List String) : Run Unit :=
  Run.setShell fun sh => { sh with parameters, optionPlace := 0 }

/-- Takes options off the front of arguments and turns them on or off. -/
def setOptions : List String → Run Unit
  | [] => pure ()
  | argument :: rest => do
    match argument.toList with
    | ['-', '-'] => setParameters rest
    | ['-'] =>
      turn false 'x'
      if !rest.isEmpty then setParameters rest
    | sign :: 'o' :: [] =>
      if sign ≠ '-' && sign ≠ '+' then setParameters (argument :: rest)
      else
        match rest with
        | [] => listOptions (sign = '-')
        | name :: rest =>
          match optionNames.lookup name with
          | some letter =>
            turn (sign = '-') letter
            setOptions rest
          | none => Run.fail s!"Illegal option {String.singleton sign}o {name}"
    | sign :: c :: more =>
      if sign ≠ '-' && sign ≠ '+' then setParameters (argument :: rest)
      else
        let letters := c :: more
        match letters.find? fun l => !(optionNames.any (·.2 = l)) || "IVELD".toList.contains l with
        | some wrong => Run.fail s!"Illegal option {String.singleton sign}{String.singleton wrong}"
        | none =>
          letters.forM (turn (sign = '-'))
          setOptions rest
    | _ => setParameters (argument :: rest)

/-- Writes the variables, or sets options and arguments. -/
def set (arguments : List String) : Run Unit := do
  if arguments.isEmpty then listVariables "" fun v => v.value.isSome
  else setOptions arguments
  Run.setStatus 0

def shift (arguments : List String) : Run Unit := do
  let n ← number (arguments.headD "1")
  let parameters := (← Run.shell).parameters
  if parameters.length < n then Run.fail "can't shift that many"
  Run.setShell fun sh => { sh with parameters := parameters.drop n }
  Run.setStatus 0

/-! ### Reading -/

/-- The line at the front of a text and what is left: a character behind a backslash is quoted, and a line end behind
one is left out. Nothing stands for the end of the text. -/
def lineAt (isRaw : Bool) (done : List Glyph) : List Char → List Glyph × Option (List Char)
  | [] => (done.reverse, none)
  | '\n' :: rest => (done.reverse, some rest)
  | '\\' :: c :: rest =>
    if isRaw then lineAt isRaw (⟨'\\', false⟩ :: done) (c :: rest)
    else if c = '\n' then lineAt isRaw done rest
    else lineAt isRaw (⟨c, true⟩ :: done) rest
  | c :: rest => lineAt isRaw (⟨c, false⟩ :: done) rest

/-- The parts of a line for a number of variables; the last of them gets all that is left. -/
def partsOf (separators : List Char) : Nat → List Glyph → List String
  | 0, _ => []
  | count + 1, line =>
    let isBlank (g : Glyph) : Bool := !g.isQuoted && separators.contains g.char && " \t\n".toList.contains g.char
    let isMark (g : Glyph) : Bool := !g.isQuoted && separators.contains g.char && !isBlank g
    let line := line.dropWhile isBlank
    if count = 0 then
      let kept := (line.reverse.dropWhile isBlank).reverse
      let inner := kept.dropLast
      -- One mark behind a single part is no part of it.
      let kept :=
        match kept.getLast? with
        | some g => if isMark g && !inner.any (fun g => isMark g || isBlank g) then inner else kept
        | none => kept
      [unquoted kept]
    else
      let first := line.takeWhile fun g => !isBlank g && !isMark g
      let rest := (line.drop first.length).dropWhile isBlank
      let rest := match rest with | g :: more => if isMark g then more else rest | [] => []
      unquoted first :: partsOf separators count rest

def read (arguments : List String) : Run Unit := do
  let rec choices (isRaw : Bool) : List String → Run (Bool × List String)
    | "-r" :: rest => choices true rest
    | "-p" :: _ :: rest => choices isRaw rest
    | "--" :: rest => return (isRaw, rest)
    | argument :: rest => do
      match argument.toList with
      | '-' :: c :: _ => Run.fail s!"Illegal option -{String.singleton c}"
      | _ => return (isRaw, argument :: rest)
    | [] => return (isRaw, [])
  let (isRaw, names) ← choices false arguments
  if names.isEmpty then Run.fail "arg count"
  match names.find? (!isName ·) with
  | some name => Run.fail s!"{name}: bad variable name"
  | none =>
    let (given, isEndless) ← Run.pending 0
    let (line, rest) := lineAt isRaw [] given
    if isEndless && rest.isNone then throw .endless
    Run.setPending 0 (rest.getD [])
    let parts := partsOf (← Run.separators).toList names.length line
    (names.zip parts).forM fun (name, value) => Run.assign name value
    Run.setStatus (if rest.isSome then 0 else 1)

/-- Goes to the next option among arguments. -/
def getopts (arguments : List String) : Run Unit := do
  match arguments with
  | spec :: name :: given =>
    let sh ← Run.shell
    let words := if given.isEmpty then sh.parameters else given
    let isSilent := spec.startsWith ":"
    let index := max 1 ((decimal? ((← Run.value? "OPTIND").getD "1")).getD 1)
    let finish (index : Nat) : Run Unit := do
      Run.assign "OPTIND" (toString index)
      Run.unsetVariable "OPTARG"
      Run.assign name "?"
      Run.setStatus 1
    match words[index - 1]? with
    | none => finish index
    | some word =>
      let place := max 1 sh.optionPlace
      match word.toList with
      | '-' :: c :: more =>
        if word = "--" then finish (index + 1)
        else
          let letters := c :: more
          let letter := letters.getD (place - 1) c
          let behind := letters.drop place
          let go (index place : Nat) (value : Option String) (found : Char) : Run Unit := do
            Run.assign "OPTIND" (toString index)
            Run.setShell fun sh => { sh with optionPlace := place }
            match value with
            | some value => Run.assign "OPTARG" value
            | none => if isSilent && found = '?' then pure () else Run.unsetVariable "OPTARG"
            Run.assign name (String.singleton found)
            Run.setStatus 0
          let next := if behind.isEmpty then (index + 1, 0) else (index, place + 1)
          let known := spec.toList
          match (known.dropWhile (· ≠ letter)) with
          | [] =>
            if !isSilent then
              let _ ← Run.write 2 s!"Illegal option -{String.singleton letter}\n"
            go next.1 next.2 (if isSilent then some (String.singleton letter) else none) '?'
          | _ :: ':' :: _ =>
            if !behind.isEmpty then go (index + 1) 0 (some (String.ofList behind)) letter
            else
              match words[index]? with
              | some value => go (index + 2) 0 (some value) letter
              | none =>
                if isSilent then go (index + 1) 0 (some (String.singleton letter)) ':'
                else
                  let _ ← Run.write 2 s!"No arg for -{String.singleton letter} option\n"
                  go (index + 1) 0 none '?'
          | _ => go next.1 next.2 (some "") letter
      | _ => finish index
  | _ => Run.fail "Usage: getopts optstring var [arg]"

/-! ### Signals and jobs -/

/-- The number of a signal given by its number or name. -/
def signal? (s : String) : Option Nat :=
  match decimal? s with
  | some n => if n < 65 then some n else none
  | none => if s = "EXIT" then some 0 else signalNumber s.toUpper

def shownSignal (n : Nat) : String := if n = 0 then "EXIT" else (signalName n).getD (toString n)

def trap (arguments : List String) : Run Unit := do
  let (_, arguments) ← options "" [] (if arguments.head? = some "-" then "--" :: arguments else arguments)
  let put (action : Option String) (names : List String) : Run Unit := do
    Run.setStatus 0
    names.forM fun name => do
      match signal? name with
      | some n =>
        Run.setShell fun sh =>
          { sh with traps := (sh.traps.filter (·.1 ≠ n)) ++ (action.map fun a => (n, a)).toList }
      | none =>
        if (← Run.status) = 0 then
          let _ ← Run.write 2 s!"trap: {name}: bad trap\n"
          Run.setStatus 1
  match arguments with
  | [] =>
    let traps := (← Run.shell).traps.mergeSort fun a b => a.1 ≤ b.1
    Run.say (ofLines (traps.map fun (n, action) => s!"trap -- {quoted action} {shownSignal n}"))
    Run.setStatus 0
  | [name] => put none [name]
  | action :: names =>
    if action = "-" || (decimal? action).isSome then
      put none (if action = "-" then names else action :: names)
    else put (some action) names

/-- Sends a signal to a process; false if there is none. -/
def send (signal : Nat) (target : Nat) : Run Bool := do
  let m ← Run.machine
  if (← Run.shell).number = target then
    if signal ≠ 0 then Run.setMachine fun m => { m with notices := m.notices ++ [⟨signal, target, m.now⟩] }
    return true
  else
    match m.jobs.find? fun j => j.number = target && m.now ≤ j.finish with
    | none => return false
    | some _ =>
      if !isHarmless signal then
        Run.setMachine fun m =>
          { m with jobs := m.jobs.map fun j =>
              if j.number = target then { j with finish := m.now, status := 128 + signal } else j }
      return true

/-- The name of a signal in lists; the last ones are named by their distance from the first or the last of them. -/
def listedSignal (n : Nat) : String :=
  match signalName n with
  | some name => name
  | none =>
    if n = 34 then "RTMIN"
    else if 34 < n && n < 50 then s!"RTMIN+{n - 34}"
    else if 50 ≤ n && n < 64 then s!"RTMAX-{64 - n}"
    else if n = 64 then "RTMAX"
    else toString n

def kill (arguments : List String) : Run Unit := do
  let deliver (signal : Nat) (targets : List String) : Run Unit := do
    Run.setStatus 0
    targets.forM fun target => do
      let last := (← Run.shell).lastJob
      let target := if target.startsWith "%" then toString (last.getD 0) else target
      match integer? target with
      | none => Run.fail s!"Illegal number: {target}"
      | some n =>
        if !(← send signal n.natAbs) then
          Run.complain "No such process\n"
          Run.setStatus 1
  let usage : Run Unit :=
    Run.fail "Usage: kill [-s sigspec | -signum | -sigspec] [pid | job]... or\nkill -l [exitstatus]"
  match arguments with
  | [] => usage
  | "-l" :: rest =>
    match rest with
    | [] => output "kill" (ofLines ("0" :: (List.range 64).map fun k => listedSignal (k + 1)))
    | status :: _ =>
      let n ← number status
      let n := if 128 ≤ n then n - 128 else n
      if n = 0 || 64 < n then Run.fail s!"invalid signal number or exit status: {status}"
      output "kill" (listedSignal n ++ "\n")
  | "-s" :: name :: targets =>
    match signal? name with
    | some n => if targets.isEmpty then usage else deliver n targets
    | none => Run.fail s!"invalid signal number or name: {name}"
  | "--" :: targets => deliver 15 targets
  | first :: targets =>
    match first.toList with
    | '-' :: more =>
      match signal? (String.ofList more), more with
      | some n, _ => if targets.isEmpty then usage else deliver n targets
      | none, c :: _ => Run.fail s!"Illegal option -{String.singleton c}"
      | none, [] => Run.fail "Illegal number: -"
    | _ => deliver 15 (first :: targets)

def waiting (arguments : List String) : Run Unit := do
  let reach (time : Nat) : Run Unit := Run.setMachine fun m => { m with now := max m.now time }
  if arguments.isEmpty then
    (← Run.machine).jobs.forM fun j => reach j.finish
    Run.setStatus 0
  else
    arguments.forM fun argument => do
      let place := argument.drop 1 |>.toString
      let jobs := (← Run.machine).jobs.reverse
      let job? ←
        if argument.startsWith "%" then
          match (decimal? place).bind fun n => jobs[n - 1]? with
          | some job => pure (some job)
          | none => Run.fail s!"No such job: {argument}"
        else do
          let n ← number argument
          pure (jobs.find? (·.number = n))
      match job? with
      | some job =>
        reach job.finish
        Run.setStatus job.status
      | none => Run.setStatus 127

/-! ### Commands -/

/-- The words that begin and end commands. -/
def keywords : List String := Reader.reservedWords

def searchPath : Run String := return (← Run.value? "PATH").getD ""

/-- What a word would run: its kind in words, and a short form. -/
def describe (name : String) : Run (Option (String × String)) := do
  let sh ← Run.shell
  if keywords.contains name then return some (s!"{name} is a shell keyword", name)
  else if (sh.functions.lookup name).isSome then return some (s!"{name} is a shell function", name)
  else if specialNames.contains name then return some (s!"{name} is a special shell builtin", name)
  else if regularNames.contains name then return some (s!"{name} is a shell builtin", name)
  else
    match SearchPath.locate (← Run.files) (← searchPath) name with
    | .ok (path, _) => return some (s!"{name} is {path}", path)
    | .error _ => return none

def type (names : List String) : Run Unit := do
  Run.setStatus 0
  names.forM fun name => do
    match ← describe name with
    | some (text, _) => Run.say (text ++ "\n")
    | none =>
      Run.say (name ++ ": not found\n")
      Run.setStatus 127

def hash (names : List String) : Run Unit := do
  Run.setStatus 0
  names.forM fun name => do
    if (← describe name).isNone then
      Run.complain s!"{name}: not found"
      Run.setStatus 1

/-- A number in base 8 with four digits. -/
def octalText (n : Nat) : String :=
  let digits := Nat.toDigits 8 n
  String.ofList (List.replicate (4 - digits.length) '0' ++ digits)

/-- The rights that a mask leaves, in words. -/
def rightsText (mask : Nat) : String :=
  let rights (shift : Nat) : String :=
    let left := 7 - mask / shift % 8
    (if left / 4 % 2 = 1 then "r" else "") ++ (if left / 2 % 2 = 1 then "w" else "") ++ (if left % 2 = 1 then "x" else "")
  s!"u={rights 64},g={rights 8},o={rights 1}"

/-- Shows or sets the rights that new files do not have. -/
def umask (arguments : List String) : Run Unit := do
  let (letters, rest) ← options "S" [] arguments
  match rest with
  | [] =>
    let mask := (← Run.shell).mask
    output "umask" ((if letters.contains 'S' then rightsText mask else octalText mask) ++ "\n")
  | mode :: _ =>
    if mode.toList.all Format.isOctal && !mode.isEmpty then
      Run.setShell fun sh => { sh with mask := Expression.ofDigits 8 mode.toList % 512 }
      Run.setStatus 0
    else if (mode.toList.head?.map Char.isDigit).getD false then Run.fail s!"Illegal number: {mode}"
    else Run.fail s!"Illegal mode: {mode}"

/-- Leaves loops or goes on with their next turn. -/
def leaveLoop (isAgain : Bool) (arguments : List String) : Run Unit := do
  let count := arguments.headD "1"
  let n ← number count
  if n = 0 then Run.fail s!"Illegal number: {count}"
  let loops := (← Run.shell).loops
  Run.setStatus 0
  if loops ≠ 0 then throw (.loop (min n loops - 1) isAgain)

/-- Leaves a function or the shell with a status. -/
def leave (how : Leave) (arguments : List String) : Run Unit := do
  if let some argument := arguments.head? then
    let n ← number argument
    Run.setStatus n
  throw how

/-- The parts of the shell that run no other commands. -/
def action? (name : String) (arguments : List String) : Option (Run Unit) :=
  match name with
  | ":" | "true" => some (Run.setStatus 0)
  | "false" => some (Run.setStatus 1)
  | "echo" => some (output "echo" (Format.line arguments))
  | "printf" => some (printf arguments)
  | "test" | "[" => some (test name arguments)
  | "cd" | "chdir" => some (cd arguments)
  | "pwd" => some (pwd arguments)
  | "export" => some (exporting arguments)
  | "readonly" => some (locking arguments)
  | "local" => some (owning arguments)
  | "unset" => some (unset arguments)
  | "set" => some (set arguments)
  | "shift" => some (shift arguments)
  | "read" => some (read arguments)
  | "getopts" => some (getopts arguments)
  | "trap" => some (trap arguments)
  | "kill" => some (kill arguments)
  | "wait" => some (waiting arguments)
  | "type" => some (type arguments)
  | "hash" => some (hash arguments)
  | "umask" => some (umask arguments)
  | "ulimit" => some (output "ulimit" "unlimited\n")
  | "times" => some (output "times" "0m0.000000s 0m0.000000s\n0m0.000000s 0m0.000000s\n")
  | "jobs" | "alias" | "unalias" => some (Run.setStatus 0)
  | "fg" | "bg" => some (Run.fail "No current job")
  | "break" => some (leaveLoop false arguments)
  | "continue" => some (leaveLoop true arguments)
  | "return" => some (leave .function arguments)
  | "exit" => some (leave .shell arguments)
  | _ => none

end Stemcell.Rehearsal.Machine.Builtin
