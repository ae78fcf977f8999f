import Stemcell.Rehearsal.Machine.Condition
import Stemcell.Rehearsal.Machine.Format
import Stemcell.Rehearsal.Machine.Tool
/-!
Tools that write something of their own: words, numbers, parts of paths, and what is known about the machine.
-/
namespace Stemcell.Rehearsal.Machine.Tool

/-- Writes its arguments on a line. -/
def echo (call : Call) : ToolResult := .ofText (Format.programLine call.arguments)

/-- Writes its arguments into a format. -/
def printf (call : Call) : ToolResult :=
  let (text, complaints, status) := Format.printed .program call.arguments
  let messages := complaints.map fun c => (true, s!"{call.name}: {c.message .program}\n")
  { status, written := messages ++ [(false, text)] }

/-- Writes a line again and again. -/
def yes (call : Call) : ToolResult :=
  let line := Text.join " " (if call.arguments.isEmpty then ["y"] else call.arguments) ++ "\n"
  let text := String.join (List.replicate (Files.endless / (8 * line.length) + 1) line)
  { ToolResult.ofText text with isEndless := true }

/-- Complains if there are arguments too few or too many. -/
def counted (call : Call) (least : Nat) (most : Option Nat) (arguments : List String) (result : Unit → ToolResult) :
    ToolResult :=
  if arguments.length < least then
    match arguments.getLast? with
    | none => call.usage "missing operand"
    | some last => call.usage s!"missing operand after {quotation last}"
  else
    match most.bind fun n => arguments[n]? with
    | some extra => call.usage s!"extra operand {quotation extra}"
    | none => result ()

/-! ### Numbers -/

/-- A decimal number: its digits without the point, and how many of them stand behind it. -/
structure Places where
  digits : Int
  count : Nat

def Places.ofText? (s : String) : Option Places :=
  match Format.realAt s.toList with
  | some (.finite isNegative num den, []) =>
    let fraction := (s.toList.dropWhile (· ≠ '.')).drop 1
    let count := (fraction.takeWhile Char.isDigit).length
    let digits : Int := (num * Nat.pow 10 count / den : Nat)
    some ⟨if isNegative then -digits else digits, count⟩
  | _ => none

/-- The digits of a number as it is with more of them behind the point. -/
def Places.scaled (n : Places) (count : Nat) : Int := n.digits * (Nat.pow 10 (count - n.count) : Int)

/-- The text of a number with digits behind the point. -/
def Places.text (count : Nat) (n : Int) : List Char :=
  let digits := Nat.toDigits 10 n.natAbs
  let digits := List.replicate (count + 1 - digits.length) '0' ++ digits
  let point := if count = 0 then [] else ['.']
  let whole := digits.length - count
  (if n < 0 then ['-'] else []) ++ digits.take whole ++ point ++ digits.drop whole

def numberFormatFlaw? (format : String) : Option String :=
  let rec behind : List Char → Option (List Char)
    | '%' :: '%' :: rest => behind rest
    | '%' :: rest => some rest
    | _ :: rest => behind rest
    | [] => none
  match behind format.toList with
  | none => some "has no % directive"
  | some rest =>
    let rest := rest.dropWhile "-+#0 '".toList.contains
    let rest := rest.dropWhile Char.isDigit
    let rest := match rest with | '.' :: more => more.dropWhile Char.isDigit | _ => rest
    match rest.dropWhile (· = 'L') with
    | [] => some "ends in %"
    | c :: rest =>
      if !"efgaEFGA".toList.contains c then some s!"has unknown %{String.singleton c} directive"
      else (behind rest).map fun _ => "has too many % directives"

def countLimit : Nat := Nat.pow 2 20

/-- Counts from one number to another. -/
def seq (call : Call) : ToolResult :=
  let known : List Choice := [⟨'s', "separator", true⟩, ⟨'w', "equal-width", false⟩, ⟨'f', "format", true⟩]
  let isNumber (s : String) : Bool :=
    match s.toList with | '-' :: c :: _ => c.isDigit || c = '.' | _ => false
  let arguments := call.arguments.flatMap fun a => if isNumber a then ["--", a] else [a]
  let act (c : Choices) : ToolResult :=
    let words := c.rest.filter (· ≠ "--")
    counted call 1 (some 3) words fun _ =>
      let format := (c.value? 'f').getD "%g"
      match words.find? (fun w => (Places.ofText? w).isNone), numberFormatFlaw? format with
      | some w, _ =>
        let kind := if (w.toList.map Char.toLower) = "nan".toList then "'not-a-number'" else "floating point"
        call.usage s!"invalid {kind} argument: {quotation w}"
      | none, some flaw => call.refuse s!"format {quotation format} {flaw}"
      | none, none =>
        let one : Places := ⟨1, 0⟩
        let (first, step, last) :=
          match words.filterMap Places.ofText? with
          | [last] => (one, one, last)
          | [first, last] => (first, one, last)
          | first :: step :: last :: _ => (first, step, last)
          | [] => (one, one, one)
        if step.digits = 0 then
          let given := words.getD 1 ""
          call.usage s!"invalid Zero increment value: {quotation given}"
        else
          let count := max first.count step.count
          let scale := max count last.count
          let low := first.scaled scale
          let stride := step.scaled scale
          let high := last.scaled scale
          let number := if (0 < stride && high < low) || (stride < 0 && low < high) then 0
            else ((high - low) / stride).toNat + 1
          let cut : Int := Nat.pow 10 (scale - count)
          let texts := (List.range (min number countLimit)).map fun (k : Nat) =>
            Places.text count ((low + (k : Int) * stride) / cut)
          let width := ([first, last].map fun n => (Places.text count (n.scaled scale / cut)).length).foldl max 0
          let padded (s : List Char) : List Char :=
            if !c.has 'w' then s
            else
              match s with
              | '-' :: rest => '-' :: List.replicate (width - s.length) '0' ++ rest
              | _ => List.replicate (width - s.length) '0' ++ s
          let shown (s : List Char) : String :=
            match c.value? 'f' with
            | some format => (Format.printed .program [format, String.ofList s]).1
            | none => String.ofList (padded s)
          if texts.isEmpty then {}
          else .ofText (Text.join ((c.value? 's').getD "\n") (texts.map shown) ++ "\n")
  match Choices.read known false arguments with
  | .ok choices => act choices
  | .error message => call.usage message

/-- The millionths of a second in a time with its unit. -/
def duration? (s : String) : Option Nat :=
  match Format.realAt s.toList with
  | some (.finite false num den, rest) =>
    let factor? : Option Nat :=
      match rest with
      | [] | ['s'] => some 1
      | ['m'] => some 60
      | ['h'] => some 3600
      | ['d'] => some 86400
      | _ => none
    factor?.map fun factor => num * factor * 1000000 / den
  | some (.infinite false, []) => some (Nat.pow 10 18)
  | _ => none

/-- Lets time pass. -/
def sleep (call : Call) : ToolResult :=
  call.choosing [] fun c => counted call 1 none c.rest fun _ =>
    match c.rest.filter fun a => (duration? a).isNone with
    | [] => { time := (c.rest.filterMap duration?).foldl (· + ·) 0 }
    | wrong => .refusal 1 (Text.join "\n" ((wrong.map fun a =>
        s!"{call.name}: invalid time interval {quotation a}") ++ [call.advice]))

/-! ### Parts of paths -/

def withoutSlashes (path : String) : String :=
  let kept := (path.toList.reverse.dropWhile (· = '/')).reverse
  if kept.isEmpty && !path.isEmpty then "/" else String.ofList kept

def lastName (path : String) : String :=
  let path := withoutSlashes path
  if path = "/" then path else (Text.split '/' path).getLastD ""

/-- A name without an ending, unless it is nothing else. -/
def withoutEnding (ending name : String) : String :=
  if ending ≠ name && ending.toList.isSuffixOf name.toList then (name.dropEnd ending.length).toString else name

/-- Writes the last names of paths. -/
def basename (call : Call) : ToolResult :=
  let known : List Choice := [⟨'a', "multiple", false⟩, ⟨'s', "suffix", true⟩, ⟨'z', "zero", false⟩]
  call.choosingFirst known fun c =>
    let isMany := c.has 'a' || c.has 's'
    counted call 1 (if isMany then none else some 2) c.rest fun _ =>
      let (paths, ending) := if isMany then (c.rest, (c.value? 's').getD "") else (c.rest.take 1, c.rest.getD 1 "")
      .ofNames (c.has 'z') (paths.map fun path => withoutEnding ending (lastName path))

/-- Writes paths without their last names. -/
def dirname (call : Call) : ToolResult :=
  call.choosing [⟨'z', "zero", false⟩] fun c =>
    counted call 1 none c.rest fun _ =>
      .ofNames (c.has 'z') (c.rest.map fun path =>
        let path := withoutSlashes path
        let kept := (path.toList.reverse.dropWhile (· ≠ '/'))
        if kept.isEmpty then "." else withoutSlashes (String.ofList kept.reverse))

/-! ### The machine and its user -/

/-- Writes the variables of the environment, or some of their values. -/
def printenv (call : Call) : ToolResult :=
  call.choosingFirst [⟨'0', "null", false⟩] fun c =>
    if c.rest.isEmpty then .ofNames (c.has '0') (call.environ.map fun e => e.1 ++ "=" ++ e.2)
    else
      let found := c.rest.map fun name => call.environ.lookup name
      { ToolResult.ofNames (c.has '0') (found.filterMap id) with status := if found.all Option.isSome then 0 else 1 }

/-- Writes the name of the directory. -/
def pwd (call : Call) : ToolResult := .ofLines [octets call.files.hereName]

/-- Writes a condition's truth as a status. -/
def test (call : Call) : ToolResult :=
  match Condition.status call.files call.name call.arguments with
  | (status, none) => { status }
  | (status, some problem) => call.refuse problem.programMessage status

/-- Writes about the user. -/
def user (call : Call) : ToolResult :=
  let known : List Choice := "ugnrG".toList.map fun letter => { letter }
  call.choosing known fun c =>
    match c.rest.find? (· ≠ "root") with
    | some name => call.refuse s!"{quotation name}: no such user"
    | none =>
    if c.has 'n' then .ofLines ["root"]
    else if c.has 'u' || c.has 'g' || c.has 'G' then .ofLines ["0"]
    else .ofLines ["uid=0(root) gid=0(root) groups=0(root)"]

/-- Writes about the system. -/
def uname (call : Call) : ToolResult :=
  call.choosing ("asnrvmpio".toList.map fun letter => { letter }) fun c =>
    if c.has 'm' && !c.has 's' then .ofLines ["x86_64"]
    else if c.has 'o' && !c.has 's' then .ofLines ["GNU/Linux"]
    else .ofLines ["Linux"]

end Stemcell.Rehearsal.Machine.Tool
