import Stemcell.Rehearsal.Machine.Builtin
import Stemcell.Rehearsal.Machine.Tool.Index
/-!
Running scripts. Every command changes the shell and the machine; commands in other processes change the machine
only. A run has a limit, and one that reaches it counts as a run without an end.
-/
namespace Stemcell.Rehearsal.Machine.Execution

open Failure (SystemCode)

/-- The most commands in a run. -/
def stepLimit : Nat := 300000

/-- The most work in a run; commands of which nothing is left count as well. -/
def workLimit : Nat := 600000

/-- The most functions and scripts inside one another; more of them use up the memory of the shell. -/
def depthLimit : Nat := 3000

/-- The most functions inside one another. -/
def callLimit : Nat := 1000

def step : Run Unit := do
  let m ← Run.machine
  if stepLimit < m.steps || workLimit < m.work then throw .endless
  Run.setMachine fun m => { m with steps := m.steps + 1, work := m.work + 1 }

/-- Runs commands, and does something after them whatever way they are left. -/
def afterwards {α : Type} (commands : Run α) (finish : Run Unit) : Run α := do
  let result ← tryCatch commands fun leave => do
    finish
    throw leave
  finish
  return result

/-- Makes a numbered stream another one. -/
def attach (number place : Nat) : Run Unit :=
  Run.setShell fun sh => { sh with streams := (number, place) :: sh.streams.filter (·.1 ≠ number) }

/-- Says that a signal ended a command, and makes a status of it. -/
def noteEnd (outcome : Int) : Run Unit := do
  if 0 ≤ outcome then Run.setStatus outcome
  else
    let words := signalWords outcome.natAbs
    if !words.isEmpty then
      let _ ← Run.write 2 (words ++ "\n")
    Run.setStatus (128 + outcome.natAbs)

/-- Goes on after another process was left in some way. -/
def rejoin (leave : Option Leave) : Run Unit := do
  match leave with
  | some .endless => throw .endless
  | some (.signal n) => noteEnd (-(n : Int))
  | _ => pure ()

/-- Leaves the shell if it is to end at failures and the last command failed. -/
def checkFailure (isTested : Bool) : Run Unit := do
  let sh ← Run.shell
  if sh.status ≠ 0 && !isTested && sh.options.contains 'e' then throw .shell

/-- The assignments in front of a command, and its other words. -/
def assignments : List Word → List (String × Word) × List Word
  | [] => ([], [])
  | word :: rest =>
    match assignment? word with
    | some a =>
      let (more, words) := assignments rest
      (a :: more, words)
    | none => ([], word :: rest)

/-- The plain text of a word, if it is nothing else. -/
def plainText? : Word → Option String
  | [.text s false] => some s
  | _ => none

def restore (saved : List (String × Option Variable)) : Run Unit :=
  saved.forM fun (name, old) =>
    Run.setShell fun sh =>
      { sh with
        bindings :=
          match old with
          | some v => Run.putVariable name v sh.bindings
          | none => sh.bindings.filter (·.1 ≠ name) }

/-- The place of a name in an environment that the shell makes. -/
def bucket (name : String) : Nat :=
  let codes := name.toList.map Char.toNat
  (16 * codes.headD 0 + codes.foldl (· + ·) 0) % 39

/-- The environment that the shell makes for programs. -/
def environment : Run (List (String × String)) := do
  let given ← Run.exported
  let isFirst (e : String × String) : Bool := e.1 = "PATH"
  let given := given.filter isFirst ++ given.filter (!isFirst ·)
  return given.mergeSort fun a b => bucket a.1 ≤ bucket b.1

def pathIn (environ : List (String × String)) : String := (environ.lookup "PATH").getD SearchPath.usual

/-- Complains that a program cannot be started. -/
def notStarted (message : String) (code : SystemCode) : Run Int := do
  let _ ← Run.write 2 (message ++ ": " ++ code.words ++ "\n")
  return if SearchPath.isAbsent code then 127 else 126

def carryOut (result : ToolResult) : Run Int := do
  if let some files := result.files then Run.setMachine fun m => { m with files }
  let isInputEndless := (← Run.pending 0).2
  if result.takesInput then Run.setPending 0 []
  result.written.forM fun (isComplaint, text) => do
    let _ ← Run.write (if isComplaint then 2 else 1) text
  Run.wait result.time
  if result.isEndless || (result.takesInput && isInputEndless && !result.stops) then throw .endless
  return result.status

def dropAfter (time : Nat) : Run Unit :=
  Run.setMachine fun m =>
    { m with
      now := min m.now time
      streams := m.streams.map fun _ s =>
        match s with
        | .sink written => .sink (written.filter (·.1 ≤ time))
        | s => s }

/-- A program to run in place of another one, with what that was told. -/
structure Errand where
  words : List String
  environ : List (String × String)
  /-- What to complain when the program cannot be started, but for the reason. -/
  complaint : String → String
  /-- Whether names that are shown instead of a program end in a character that no name holds. -/
  isZero : Bool := false

/-- What stands in front of a program to run: settings of its environment. -/
def environmentErrand (call : Call) : Except ToolResult Errand := do
  let known : List Choice :=
    [⟨'i', "ignore-environment", false⟩, ⟨'u', "unset", true⟩, ⟨'0', "null", false⟩, ⟨'C', "chdir", true⟩,
      ⟨'v', "debug", false⟩]
  let arguments := call.arguments.map fun a => if a = "-" then "-i" else a
  match Choices.read known true arguments with
  | .error message => throw (call.usage message 125)
  | .ok c =>
    let environ := if c.has 'i' then [] else call.environ
    let unset := (c.options.filter (·.1 = 'u')).map Prod.snd
    let environ := environ.filter fun e => !unset.contains e.1
    let isSetting (s : String) : Bool := s.toList.contains '='
    let settings := c.rest.takeWhile isSetting
    let environ := settings.foldl (fun environ s =>
      let name := String.ofList (s.toList.takeWhile (· ≠ '='))
      let value := (s.drop (name.length + 1)).toString
      if environ.any (·.1 = name) then environ.map fun e => if e.1 = name then (name, value) else e
      else environ ++ [(name, value)]) environ
    return {
      words := c.rest.drop settings.length, environ, complaint := fun name => s!"env: {quotation name}"
      isZero := c.has '0' }

/-- What stands in front of a program to run: nothing that shows. -/
def plainErrand (call : Call) : Except ToolResult Errand := do
  let failed (name : String) : String := s!"{call.name}: failed to run command {quotation name}"
  let given (known : List Choice) (status : Int) (complaint : String → String) : Except ToolResult Errand :=
    match Choices.read known true call.arguments with
    | .ok c => .ok { words := c.rest, environ := call.environ, complaint }
    | .error message => .error (call.usage message status)
  match call.name with
  | "nice" =>
    if call.arguments.isEmpty then throw (.ofLines ["0"])
    else
      let isNumber (s : String) : Bool := s.startsWith "-" && (decimal? (s.drop 1).toString).isSome
      let arguments := if (call.arguments.head?.map isNumber).getD false then call.arguments.drop 1 else call.arguments
      match Choices.read [⟨'n', "adjustment", true⟩] true arguments with
      | .ok c => return { words := c.rest, environ := call.environ, complaint := fun name => s!"nice: {quotation name}" }
      | .error message => throw (call.usage message 125)
  | "setsid" => given (letterChoices "cfw") 1 fun name => s!"setsid: failed to execute {name}"
  | "stdbuf" => given [⟨'i', "input", true⟩, ⟨'o', "output", true⟩, ⟨'e', "error", true⟩] 125 failed
  | _ => given [] 125 failed

/-- Takes the arguments that a text is: between blanks or line ends, and without quotes. -/
def wordsOf (s : String) : List String :=
  let rec go (fuel : Nat) (word : Option (List Char)) (s : List Char) : List String :=
    let close : List String := match word with | some w => [String.ofList w.reverse] | none => []
    let add (c : Char) : Option (List Char) := some (c :: word.getD [])
    match fuel, s with
    | 0, _ | _, [] => close
    | fuel + 1, c :: rest =>
      if c = ' ' || c = '\t' || c = '\n' then close ++ go fuel none rest
      else if c = '\'' || c = '"' then
        let inner := rest.takeWhile (· ≠ c)
        go fuel (some (inner.reverse ++ word.getD [])) (rest.drop (inner.length + 1))
      else if c = '\\' then
        match rest with
        | next :: rest => go fuel (some (next :: word.getD [])) rest
        | [] => close
      else go fuel (add c) rest
  go (s.length + 1) none s.toList

/-- Groups of so many elements. -/
def chunks {α : Type} (size : Nat) : Nat → List α → List (List α)
  | 0, _ => []
  | fuel + 1, xs => if xs.isEmpty then [] else xs.take size :: chunks size fuel (xs.drop size)

/-- A text with another in place of each place where a mark stands. -/
def substitute (mark value : String) : Nat → List Char → String
  | 0, s => String.ofList s
  | fuel + 1, s =>
    match s with
    | [] => ""
    | c :: rest =>
      if mark.toList.isPrefixOf s && !mark.isEmpty then value ++ substitute mark value fuel (s.drop mark.length)
      else String.singleton c ++ substitute mark value fuel rest

/-- The commands that arguments from the input make. -/
def argumentLists (call : Call) : Except ToolResult (List (List String)) := do
  let known : List Choice :=
    [⟨'n', "max-args", true⟩, ⟨'I', "replace", true⟩, ⟨'0', "null", false⟩, ⟨'r', "no-run-if-empty", false⟩,
      ⟨'d', "delimiter", true⟩, ⟨'t', "verbose", false⟩, ⟨'L', "max-lines", true⟩, ⟨'P', "max-procs", true⟩]
  match Choices.read known true call.arguments with
  | .error message => throw (call.usage message)
  | .ok c =>
    let command := if c.rest.isEmpty then ["echo"] else c.rest
    let counts := c.options.filter fun o => o.1 = 'n' || o.1 = 'L'
    if let some (letter, wrong) := counts.find? fun o => (decimal? o.2).isNone then
      let quoted := "\"" ++ wrong ++ "\""
      throw (call.usage s!"invalid number {quoted} for -{String.singleton letter} option")
    if let some (letter, _) := counts.find? fun o => decimal? o.2 = some 0 then
      throw (call.usage s!"value 0 for -{String.singleton letter} option should be >= 1")
    let pieces (mark : Char) : List String :=
      let parts := Text.split mark call.input
      if parts.getLast? = some "" then parts.dropLast else parts
    let given :=
      if c.has '0' then pieces '\x00'
      else
        match c.value? 'd' with
        | some d => pieces ((String.ofList (Format.unescape .shell [] (d.length + 1) d.toList).1).toList.headD '\n')
        | none =>
          if c.has 'I' || c.has 'L' then
            let isBlank (c : Char) : Bool := c = ' ' || c = '\t'
            ((linesOf call.input).map fun l => String.ofList (l.toList.dropWhile isBlank)).filter (!·.isEmpty)
          else wordsOf call.input
    match c.value? 'I' with
    | some mark =>
      return given.map fun value => command.map fun word => substitute mark value (word.length + 1) word.toList
    | none =>
      if given.isEmpty then return if c.has 'r' then [] else [command]
      else
        let size := ((c.value? 'n').orElse fun _ => c.value? 'L').bind decimal?
        let size := max 1 (size.getD given.length)
        let given := if c.has 'L' then given.map fun l => wordsOf l else given.map fun w => [w]
        return (chunks size given.length given).map fun group => command ++ group.flatten

mutual

/-- What commands write. -/
def capture : Nat → Command → Run String
  | 0, _ => throw .endless
  | fuel + 1, body => do
    let place ← Run.newStream (.sink [])
    let before ← Run.status
    let leave ← Run.apart do
      attach 1 place
      ending fuel (exec fuel false body)
    rejoin leave
    let status ← Run.status
    Run.setShell fun sh => { sh with status := before, inner := some status }
    let text ← Run.collected place
    return String.ofList (text.toList.reverse.dropWhile (· = '\n')).reverse

/-- Runs commands, and after them what was laid down for the end of the shell. -/
def ending : Nat → Run Unit → Run Unit
  | 0, _ => throw .endless
  | fuel + 1, commands => do
    let leave ← tryCatch (do commands; pure Leave.shell) pure
    match leave with
    | .endless | .signal _ => throw leave
    | _ =>
      match (← Run.shell).traps.lookup 0 with
      | none | some "" => pure ()
      | some action =>
        Run.setShell fun sh => { sh with traps := sh.traps.filter (·.1 ≠ 0) }
        let status ← Run.status
        let leave ← tryCatch (do script fuel false action; pure none) (pure ∘ some)
        match leave with
        | some .endless => throw .endless
        | some (.signal n) => throw (.signal n)
        | some .shell | some .failure => pure ()
        | _ => Run.setStatus status

/-- Runs the commands of a text, one line after the other. -/
def script : Nat → Bool → String → Run Unit
  | 0, _, _ => throw .endless
  | fuel + 1, isTested, text => do
    let sh ← Run.shell
    if depthLimit < sh.depth then throw (.signal 11)
    Run.setShell fun sh => { sh with depth := sh.depth + 1 }
    afterwards (scriptLines fuel isTested true (8 * text.length + 64) { rest := text.toList, count := sh.documents.length })
      (Run.setShell fun after => { after with depth := sh.depth })

/-- Runs the commands of what is still to be read; where there are none at all, the status is that of a success. -/
def scriptLines : Nat → Bool → Bool → Nat → Reading → Run Unit
  | 0, _, _, _, _ => throw .endless
  | fuel + 1, isTested, isFresh, size, reading => do
    match readLine size reading with
    | .error flaw =>
      Run.setShell fun sh => { sh with line := flaw.line }
      Run.fail flaw.message
    | .ok none => if isFresh then Run.setStatus 0
    | .ok (some (c, reading)) =>
      let documents := reading.documents
      Run.setShell fun sh => { sh with documents := documents ++ sh.documents }
      exec fuel isTested c
      let isEmpty := match c with | .sequence [] => true | _ => false
      scriptLines fuel isTested (isFresh && isEmpty) size { reading with documents := [] }

def exec : Nat → Bool → Command → Run Unit
  | 0, _, _ => throw .endless
  | fuel + 1, isTested, c => do
    if (← Run.shell).options.contains 'n' then return
    match c with
    | .simple line words redirections =>
      step
      Run.setShell fun sh => { sh with line, inner := none }
      simple fuel isTested words redirections
      receive fuel
      checkFailure isTested
    | .pipeline commands =>
      let start := (← Run.machine).now
      pipeline fuel start none commands
      receive fuel
      checkFailure isTested
    | .negated c =>
      exec fuel true c
      Run.setStatus (if (← Run.status) = 0 then 1 else 0)
    | .both a b =>
      exec fuel true a
      if (← Run.status) = 0 then exec fuel isTested b
    | .either a b =>
      exec fuel true a
      if (← Run.status) ≠ 0 then exec fuel isTested b
    | .sequence commands => commands.forM (exec fuel isTested)
    | .background c => background fuel c
    | .subshell body =>
      let leave ← Run.apart (ending fuel (exec fuel isTested body))
      rejoin leave
      receive fuel
      checkFailure isTested
    | .redirected body redirections =>
      let before := (← Run.shell).streams
      afterwards
        (do if ← redirect fuel redirections then exec fuel isTested body else Run.setStatus 2)
        (Run.setShell fun sh => { sh with streams := before })
      checkFailure isTested
    | .branch condition body otherwise =>
      exec fuel true condition
      if (← Run.status) = 0 then exec fuel isTested body
      else
        match otherwise with
        | .sequence [] => Run.setStatus 0
        | _ => exec fuel isTested otherwise
    | .loop isUntil condition body =>
      inLoop (loop fuel isTested isUntil condition body 0)
    | .each line name words body =>
      Run.setShell fun sh => { sh with line }
      let values ←
        match words with
        | none => pure (← Run.shell).parameters
        | some words => pure (← words.mapM (Expansion.fields (capture fuel))).flatten
      Run.setStatus 0
      inLoop (each fuel isTested name body values)
    | .select line word cases =>
      Run.setShell fun sh => { sh with line }
      let value ← Expansion.text (capture fuel) word
      select fuel isTested value cases
    | .define name body =>
      Run.setShell fun sh => { sh with functions := (name, body) :: sh.functions.filter (·.1 ≠ name) }
      Run.setStatus 0

def inLoop (turns : Run Unit) : Run Unit := do
  let loops := (← Run.shell).loops
  Run.setShell fun sh => { sh with loops := loops + 1 }
  afterwards turns (Run.setShell fun sh => { sh with loops })

/-- Runs one turn of a loop; false if the loop ends with it. -/
def turn (commands : Run Unit) : Run Bool :=
  tryCatch (do commands; pure true) fun leave =>
    match leave with
    | .loop 0 isAgain => pure isAgain
    | .loop (outer + 1) isAgain => throw (.loop outer isAgain)
    | leave => throw leave

def loop : Nat → Bool → Bool → Command → Command → Int → Run Unit
  | 0, _, _, _, _, _ => throw .endless
  | fuel + 1, isTested, isUntil, condition, body, last => do
    step
    let goesOn ← turn (exec fuel true condition)
    if goesOn then
      if ((← Run.status) = 0) = isUntil then Run.setStatus last
      else if ← turn (exec fuel isTested body) then
        loop fuel isTested isUntil condition body (← Run.status)

/-- Runs the turns of a loop over words. -/
def each : Nat → Bool → String → Command → List String → Run Unit
  | 0, _, _, _, _ => throw .endless
  | fuel + 1, isTested, name, body, values => do
    match values with
    | [] => pure ()
    | value :: rest =>
      step
      Run.assign name value
      if ← turn (exec fuel isTested body) then each fuel isTested name body rest

/-- Runs the first case with a pattern for a text. -/
def select : Nat → Bool → String → List (List Word × Command) → Run Unit
  | 0, _, _, _ => throw .endless
  | fuel + 1, isTested, value, cases => do
    match cases with
    | [] => Run.setStatus 0
    | (patterns, body) :: rest =>
      let fits ← patterns.anyM fun word => do
        let pattern ← Expansion.pattern (capture fuel) word
        return Pattern.accepts pattern value.toList
      if fits then
        match body with
        | .sequence [] => Run.setStatus 0
        | _ => exec fuel isTested body
      else select fuel isTested value rest

/-- Runs a command without waiting for it. -/
def background : Nat → Command → Run Unit
  | 0, _ => throw .endless
  | fuel + 1, c => do
    let number := (← Run.machine).lastNumber + 1
    let now := (← Run.machine).now
    let steps := (← Run.machine).steps
    Run.setMachine fun m => { m with lastNumber := number }
    let void ← Run.newStream .void
    let leave ← Run.apart do
      attach 0 void
      ending fuel (exec fuel false c)
    let last ← Run.status
    let time := (← Run.machine).now
    let status : Int := match leave with | some (.signal n) => 128 + n | _ => last
    let isEndless := leave = some .endless
    let finish := if isEndless then now + Nat.pow 10 18 else time
    Run.setMachine fun after =>
      { after with
        now
        steps := if isEndless then steps else after.steps
        jobs := ⟨number, status, finish⟩ :: after.jobs }
    Run.setShell fun sh => { sh with status := 0, lastJob := some number }

/-- Runs commands at the same time, each of them reading what the one before it writes. -/
def pipeline : Nat → Nat → Option Nat → List Command → Run Unit
  | 0, _, _, _ => throw .endless
  | fuel + 1, start, input, commands => do
    match commands with
    | [] => pure ()
    | c :: rest =>
      let output ← Run.newStream (.sink [])
      let now := (← Run.machine).now
      let steps := (← Run.machine).steps
      Run.setMachine fun m => { m with now := start }
      let leave ← Run.apart do
        if let some place := input then attach 0 place
        if !rest.isEmpty then attach 1 output
        ending fuel (exec fuel false c)
      let text ← if rest.isEmpty then pure "" else Run.collected output
      -- A command without an end is stopped when nobody reads what it writes.
      if leave = some .endless && !text.isEmpty then
        Run.setMachine fun m => { m with now, steps }
      else
        rejoin leave
        Run.setMachine fun m => { m with now := max now m.now }
      let next ← Run.newStream (.source text.toList (leave = some .endless))
      pipeline fuel start (some next) rest

/-- Opens the streams of a command; false if one of them cannot be opened. -/
def redirect : Nat → List Redirection → Run Bool
  | 0, _ => throw .endless
  | fuel + 1, redirections => do
    match redirections with
    | [] => return true
    | .mk number opening word :: rest =>
      let put (stream : Stream) : Run Bool := do
        attach number (← Run.newStream stream)
        redirect fuel rest
      let refuse (verb path : String) (code : SystemCode) : Run Bool := do
        let reason := if SearchPath.isAbsent code then (if verb = "open" then "No such file" else "Directory nonexistent")
          else code.words
        Run.complain s!"cannot {verb} {path}: {reason}"
        return false
      let copy (other : Nat) : Run Bool := do
        match (← Run.shell).streams.lookup other with
        | some place =>
          attach number place
          redirect fuel rest
        | none =>
          Run.complain s!"{other}: {SystemCode.words .badDescriptor}"
          return false
      let known (path : String) : Option Nat :=
        match path with
        | "/dev/stdin" => some 0
        | "/dev/stdout" => some 1
        | "/dev/stderr" => some 2
        | _ => if path.startsWith "/dev/fd/" then decimal? (path.drop 8).toString else none
      match opening with
      | .document n => do
        let document := ((← Run.shell).documents.lookup n).getD []
        let found? ← tryCatch (some <$> Expansion.marks (capture fuel) document) fun leave =>
          match leave with
          | .failure => pure none
          | leave => throw leave
        match found? with
        | some found => put (.source (Mark.text found).toList false)
        | none => return false
      | .duplicate => do
        let target ← Expansion.text (capture fuel) word
        if target = "-" then
          Run.setShell fun sh => { sh with streams := sh.streams.filter (·.1 ≠ number) }
          redirect fuel rest
        else
          match decimal? target with
          | some n => copy n
          | none => Run.fail "Syntax error: Bad fd number"
      | .input => do
        let path ← Expansion.text (capture fuel) word
        let files ← Run.files
        match known path, Disk.way files (readable path) with
        | some n, _ => copy n
        | none, .error code => refuse "open" path code
        | none, .ok way =>
          match files.root.at? way with
          | none => refuse "open" path .noEntry
          | some node =>
            let isEndless := match node with | .device isEndless => isEndless | _ => false
            put (.source (ofBytes (Disk.contents files way)).toList isEndless)
      | .output | .overwrite | .append => do
        let path ← Expansion.text (capture fuel) word
        let isAppending := opening = .append
        let files ← Run.files
        match known path, Disk.target files (readable path) FileNode.linkLimit with
        | some n, _ => copy n
        | none, .error code => refuse "create" path code
        | none, .ok way =>
          match files.root.at? way with
          | some (.directory _) => refuse "create" path .isDirectory
          | some (.device _) => put .void
          | some (.file data) =>
            if opening = .output && (← Run.shell).options.contains 'C' then
              Run.complain s!"cannot create {path}: File exists"
              return false
            Run.setMachine fun m => { m with files := Disk.put files way (.file (if isAppending then data else [])) }
            put (.file way 0 isAppending)
          | _ =>
            Run.setMachine fun m => { m with files := Disk.put files way (.file []) }
            put (.file way 0 isAppending)

/-- Gives variables the values of assignments. -/
def assignAll : Nat → List (String × Word) → Run Unit
  | 0, _ => throw .endless
  | fuel + 1, assigned =>
    assigned.forM fun (name, word) => do Run.assign name (← Expansion.assignedText (capture fuel) word)

/-- The words of a command with what they stand for in place. -/
def arguments : Nat → List Word → Run (List String)
  | 0, _ => throw .endless
  | fuel + 1, words => do
    let takesAssignments :=
      (words.head?.bind plainText?).any fun name => ["export", "readonly", "local"].contains name
    let found ← words.mapM fun word => do
      match if takesAssignments then assignment? word else none with
      | some (name, value) => return [name ++ "=" ++ (← Expansion.assignedText (capture fuel) value)]
      | none => Expansion.fields (capture fuel) word
    return found.flatten

def simple : Nat → Bool → List Word → List Redirection → Run Unit
  | 0, _, _, _ => throw .endless
  | fuel + 1, isTested, words, redirections => do
    let (assigned, words) := assignments words
    let words ← arguments fuel words
    let before := (← Run.shell).streams
    let close : Run Unit := Run.setShell fun sh => { sh with streams := before }
    let trace : Run Unit := do
      if (← Run.shell).options.contains 'x' then
        let values ← assigned.mapM fun (name, word) => do
          return name ++ "=" ++ (← Expansion.assignedText (capture fuel) word)
        let _ ← Run.write 2 ("+ " ++ Text.join " " (values ++ words) ++ "\n")
    match words with
    | [] =>
      let isOpen ← redirect fuel redirections
      close
      if isOpen then
        trace
        assignAll fuel assigned
        let sh ← Run.shell
        Run.setStatus (sh.inner.getD 0)
      else Run.setStatus 2
    | name :: given =>
      let isSpecial := Builtin.specialNames.contains name
      let isOpen ← tryCatch (redirect fuel redirections) fun leave => do
        close
        throw leave
      if !isOpen then
        close
        Run.setStatus 2
        if isSpecial then throw .failure
      else
        trace
        let sh ← Run.shell
        if isSpecial then
          assignAll fuel assigned
          let keeps := name = "exec" && given.isEmpty
          if keeps then Run.setStatus 0
          else
            afterwards (asPart name (builtin fuel isTested name given)) do
              if name ≠ "exec" then close
        else
          let saved := assigned.map fun (name, _) => (name, sh.bindings.lookup name)
          assignAll fuel assigned
          let body? := sh.functions.lookup name
          if body?.isNone && !Builtin.regularNames.contains name then
            assigned.forM fun (name, _) => Run.changeVariable name fun v => { v with isExported := true }
          afterwards
            (match body? with
            | some body => call fuel isTested body given
            | none =>
              if Builtin.regularNames.contains name then trying (if name = "command" then builtin fuel isTested name given
                else asPart name (builtin fuel isTested name given))
              else do noteEnd (← launch fuel name given))
            (do
              close
              restore saved)

/-- Runs a part of the shell whose failure does not end the shell. -/
def trying (commands : Run Unit) : Run Unit :=
  tryCatch commands fun leave =>
    match leave with
    | .failure => pure ()
    | leave => throw leave

/-- Runs a part of the shell under its name. -/
def asPart {α : Type} (name : String) (commands : Run α) : Run α := do
  let before := (← Run.shell).part
  Run.setShell fun sh => { sh with part := some name }
  afterwards commands (Run.setShell fun sh => { sh with part := before })

/-- Runs a function with arguments. -/
def call : Nat → Bool → Command → List String → Run Unit
  | 0, _, _, _ => throw .endless
  | fuel + 1, isTested, body, given => do
    let sh ← Run.shell
    if depthLimit < sh.depth then throw (.signal 11)
    if callLimit ≤ sh.calls then Run.fail s!"Maximum function recursion depth ({callLimit}) reached"
    Run.setShell fun sh =>
      { sh with
        calls := sh.calls + 1
        parameters := given, saved := some [], loops := 0, depth := sh.depth + 1 }
    afterwards
      (tryCatch (exec fuel isTested body) fun leave =>
        match leave with
        | .function => pure ()
        | leave => throw leave)
      (do
        restore ((← Run.shell).saved.getD [])
        Run.setShell fun after =>
          { after with
            parameters := sh.parameters, saved := sh.saved, loops := sh.loops, depth := sh.depth, calls := sh.calls })

/-- Runs a part of the shell. -/
def builtin : Nat → Bool → String → List String → Run Unit
  | 0, _, _, _ => throw .endless
  | fuel + 1, isTested, name, given => do
    match name with
    | "eval" =>
      let text := Text.join " " given
      script fuel isTested text
    | "." =>
      match given with
      | [] => Run.setStatus 0
      | path :: _ =>
        let files ← Run.files
        let directories := Text.split ':' (← Builtin.searchPath)
        let paths := if path.toList.contains '/' then [path] else directories.map (Path.join · path)
        let found := paths.findSome? fun p =>
          match Disk.way files (readable p) with
          | .ok way => match files.root.at? way with | some (.file data) => some (p, ofBytes data) | _ => none
          | .error _ => none
        match found with
        | some (path, text) =>
          asPart path (tryCatch (script fuel false text) fun leave =>
            match leave with
            | .function => pure ()
            | leave => throw leave)
        | none =>
          if path.toList.contains '/' then Run.fail s!"cannot open {path}: No such file"
          else Run.fail s!"{path}: not found"
    | "exec" =>
      match given with
      | [] => Run.setStatus 0
      | program :: more =>
        let outcome ← launch fuel program more
        if outcome < 0 then throw (.signal outcome.natAbs)
        Run.setStatus outcome
        -- What was laid down for the end of the shell is gone with the shell.
        Run.setShell fun sh => { sh with traps := [] }
        throw .shell
    | "command" =>
      let (letters, rest) ← asPart name (Builtin.options "pvV" [] given)
      match rest with
      | [] => Run.setStatus 0
      | word :: more =>
        if letters.contains 'v' || letters.contains 'V' then
          match ← Builtin.describe word with
          | some (text, short) =>
            Run.say ((if letters.contains 'V' then text else short) ++ "\n")
            Run.setStatus 0
          | none =>
            if letters.contains 'V' then Run.say (word ++ ": not found\n")
            Run.setStatus 127
        else if (Builtin.specialNames ++ Builtin.regularNames).contains word then trying (asPart word (builtin fuel isTested word more))
        else noteEnd (← launch fuel word more)
    | _ =>
      match Builtin.action? name given with
      | some action => action
      | none => Run.setStatus 0

/-- Acts on the signals that have come. -/
def receive : Nat → Run Unit
  | 0 => throw .endless
  | fuel + 1 => do
    let sh ← Run.shell
    let m ← Run.machine
    if sh.isMain && !m.notices.isEmpty then
      match m.notices.find? fun n => n.target = sh.number && n.time ≤ m.now with
      | none => pure ()
      | some notice =>
        Run.setMachine fun m => { m with notices := m.notices.erase notice }
        let action? := if notice.signal = 9 || notice.signal = 19 then none else sh.traps.lookup notice.signal
        match action? with
        | some "" => pure ()
        | some action =>
          let status ← Run.status
          script fuel false action
          Run.setStatus status
        | none =>
          if isHarmless notice.signal then pure ()
          else if isHalting notice.signal then throw .endless
          else
            Run.setMachine fun m => { m with now := notice.time }
            throw (.signal notice.signal)
        receive fuel

/-- Starts the program with a name, or complains; below zero stands the number of the signal that ended it. -/
def launch : Nat → String → List String → Run Int
  | 0, _, _ => throw .endless
  | fuel + 1, name, given => do
    match SearchPath.locate (← Run.files) (← Builtin.searchPath) name with
    | .ok (_, program) => run fuel program (name :: given) (← environment)
    | .error code =>
      let reason := if SearchPath.isAbsent code then "not found" else code.words
      Run.complain s!"{name}: {reason}"
      return if SearchPath.isAbsent code || !name.toList.contains '/' then 127 else 126

/-- Runs the program that another one is asked to run. -/
def runErrand : Nat → Errand → Run Int
  | 0, _ => throw .endless
  | fuel + 1, errand => do
    let name := errand.words.headD ""
    match SearchPath.locate (← Run.files) (pathIn errand.environ) name with
    | .ok (_, program) => run fuel program errand.words errand.environ
    | .error code => notStarted (errand.complaint name) code

/-- Runs a program; its words start with its name. -/
def run : Nat → String → List String → List (String × String) → Run Int
  | 0, _, _, _ => throw .endless
  | fuel + 1, program, words, environ => do
    let input ← if Tool.reads program then do pure (String.ofList (← Run.pending 0).1) else pure ""
    let c : Call := { name := words.headD "", arguments := words.drop 1, environ, input, files := ← Run.files }
    match program with
    | "sh" | "dash" | "bash" => interpret fuel c
    | "env" =>
      match environmentErrand c with
      | .error result => carryOut result
      | .ok errand =>
        if errand.words.isEmpty then carryOut (.ofNames errand.isZero (errand.environ.map fun e => e.1 ++ "=" ++ e.2))
        else runErrand fuel errand
    | "nice" | "nohup" | "setsid" | "stdbuf" =>
      match plainErrand { c with name := program } with
      | .error result => carryOut result
      | .ok errand =>
        if errand.words.isEmpty then carryOut (c.usage "missing operand" 125) else runErrand fuel errand
    | "timeout" => limited fuel c
    | "xargs" =>
      match argumentLists c with
      | .error result => carryOut result
      | .ok lists =>
        Run.setPending 0 []
        let isTraced := c.arguments.takeWhile (·.startsWith "-") |>.contains "-t"
        let outcomes ← lists.mapM fun words => do
          if isTraced then
            let _ ← Run.write 2 (Text.join " " words ++ "\n")
          runErrand fuel { words, environ, complaint := fun name => s!"xargs: {name}" }
        match outcomes.find? fun n => n = 127 || n = 126 || n < 0 with
        | some n => return if n < 0 then 125 else n
        | none => return if outcomes.any (· = 255) then 124 else if outcomes.any (· ≠ 0) then 123 else 0
    | _ =>
      let result := Tool.run program c
      let isWaiting := Tool.waitsForEnd program && result.takesInput && (← Run.pending 0).2
      carryOut (if isWaiting then { result with written := [] } else result)

/-- Runs a program for some time at most. -/
def limited : Nat → Call → Run Int
  | 0, _ => throw .endless
  | fuel + 1, c => do
    let known : List Choice :=
      [⟨'s', "signal", true⟩, ⟨'k', "kill-after", true⟩, ⟨'v', "verbose", false⟩, ⟨'p', "preserve-status", false⟩,
        ⟨'f', "foreground", false⟩]
    match Choices.read known true c.arguments with
    | .error message => carryOut (c.usage message 125)
    | .ok choices =>
      match choices.rest with
      | time :: name :: more =>
        match Tool.duration? time with
        | none => carryOut (c.usage s!"invalid time interval {quotation time}" 125)
        | some time =>
          let start := (← Run.machine).now
          let steps := (← Run.machine).steps
          let errand : Errand :=
            { words := name :: more, environ := c.environ
              complaint := fun name => s!"timeout: failed to run command {quotation name}" }
          let outcome? ← tryCatch (some <$> runErrand fuel errand) fun leave =>
            match leave with
            | .endless => pure none
            | leave => throw leave
          if time ≠ 0 && (outcome?.isNone || start + time < (← Run.machine).now) then
            dropAfter (start + time)
            Run.setMachine fun m => { m with now := start + time, steps }
            let signal := ((choices.value? 's').bind fun s => Builtin.signal? s).getD 15
            return if signal = 9 then -9 else if choices.has 'p' then 128 + signal else 124
          else
            match outcome? with
            | none => throw .endless
            | some n => return if n < 0 then 128 + n.natAbs else n
      | _ => carryOut (.refusal 125 c.advice)

def interpret : Nat → Call → Run Int
  | 0, _ => throw .endless
  | fuel + 1, c => do
    let before ← Run.shell
    let here := (← Run.files).here
    let hereName := (← Run.files).hereName
    let number := (← Run.machine).lastNumber + 1
    Run.setMachine fun m => { m with lastNumber := number }
    let given := c.environ.map fun (name, value) => (name, ({ value := some value, isExported := true } : Variable))
    let given := given.filter fun e => isName e.1 && !(["PWD", "OPTIND", "IFS", "PS1", "PS2", "PS4", "PPID"].contains e.1)
    let plain (name value : String) : String × Variable := (name, { value := some value })
    let path := if given.any (·.1 = "PATH") then []
      else [plain "PATH" "/usr/local/sbin:/usr/local/bin:/usr/sbin:/usr/bin:/sbin:/bin"]
    let own : List (String × Variable) :=
      path ++ [plain "IFS" " \t\n", plain "OPTIND" "1", plain "PS1" "# ", plain "PS2" "> ", plain "PS4" "+ ",
        plain "PPID" (toString before.number),
        ("PWD", { value := some (octets hereName), isExported := true })]
    Run.setShell fun _ =>
      { name := c.name, line := 0, bindings := given ++ own, streams := before.streams, number,
        depth := before.depth + 1 }
    let leave ← tryCatch (do interpretation fuel c; pure none) (pure ∘ some)
    let after ← Run.shell
    Run.setMachine fun m => { m with files := { m.files with here, hereName } }
    Run.setShell fun _ => before
    match leave with
    | some .endless => throw .endless
    | some (.signal n) => return -(n : Int)
    | _ => return after.status % 256

/-- Runs the script that the arguments of a shell name. -/
def interpretation : Nat → Call → Run Unit
  | 0, _ => throw .endless
  | fuel + 1, c => do
    if depthLimit < (← Run.shell).depth then throw (.signal 11)
    let rec letters (fromText fromInput : Bool) : List String → Run (Bool × Bool × List String)
      | [] => return (fromText, fromInput, [])
      | argument :: rest => do
        match argument.toList with
        | ['-', '-'] | ['-'] => return (fromText, fromInput, rest)
        | sign :: l :: more =>
          if sign ≠ '-' && sign ≠ '+' then return (fromText, fromInput, argument :: rest)
          else
            let given := l :: more
            match given.find? fun l => !"cseuxfnvaCbmiVEIpl".toList.contains l with
            | some wrong =>
              Run.fail s!"Illegal option {String.singleton sign}{String.singleton wrong}"
            | none =>
              (given.filter fun l => l ≠ 'c' && l ≠ 'l').forM (Builtin.turn (sign = '-'))
              letters (fromText || given.contains 'c') (fromInput || given.contains 's') rest
        | _ => return (fromText, fromInput, argument :: rest)
    ending fuel do
      let (fromText, fromInput, rest) ← letters false false c.arguments
      let start (name : String) (parameters : List String) (text : String) : Run Unit := do
        Run.setShell fun sh => { sh with name, parameters, line := 1 }
        script fuel false text
      match fromText, rest with
      | true, [] => Run.fail "-c requires an argument"
      | true, text :: more => start (more.headD c.name) (more.drop 1) text
      | false, [] =>
        Run.setPending 0 []
        start c.name [] c.input
      | false, path :: more =>
        if fromInput then
          Run.setPending 0 []
          start c.name rest c.input
        else
          match c.read path with
          | .ok text => start path more text
          | .error _ => Run.fail s!"cannot open {path}: No such file"

end

end Stemcell.Rehearsal.Machine.Execution
