import Stemcell.Rehearsal.Machine.Expression
import Stemcell.Rehearsal.Machine.Fields
import Stemcell.Rehearsal.Machine.Shell
/-!
What the pieces of words stand for: parameters, what commands write, and the values of expressions. How commands
are run is left open.
-/
namespace Stemcell.Rehearsal.Machine.Expansion

/-- The value of a parameter: a text, or one for each argument. -/
inductive Found where
  | none
  | single (s : String)
  | many (values : List String) (isJoined : Bool)

def optionLetters (sh : Shell) : String := String.ofList ("efuxnaC".toList.filter sh.options.contains)

def find (name : String) : Run Found := do
  let sh ← Run.shell
  match name with
  | "@" => return .many sh.parameters false
  | "*" => return .many sh.parameters true
  | "#" => return .single (toString sh.parameters.length)
  | "?" => return .single (toString sh.status)
  | "-" => return .single (optionLetters sh)
  | "$" => return .single (toString sh.number)
  | "!" => return .single ((sh.lastJob.map toString).getD "")
  | "0" => return .single sh.name
  | _ =>
    match decimal? name with
    | some n => return match sh.parameters[n - 1]? with | some s => .single s | Option.none => .none
    | Option.none => return match ← Run.value? name with | some s => .single s | Option.none => .none

def marksOf (found : Found) (quoted : Bool) : Run (List Mark) := do
  match found with
  | .none => return Mark.found quoted ""
  | .single s => return Mark.found quoted s
  | .many values isJoined =>
    if quoted && isJoined then
      let between := ((← Run.separators).toList.take 1)
      return Mark.found true (Text.join (String.ofList between) values)
    else return (([Mark.gap] : List Mark).intercalate (values.map (Mark.found quoted)))

/-- Whether a value is there, and is not empty where that counts. -/
def isPresent (found : Found) (evenIfEmpty : Bool) : Bool :=
  match found with
  | .none => false
  | .single s => !(evenIfEmpty && s.isEmpty)
  | .many values _ => !values.isEmpty && !(evenIfEmpty && values = [""])

/-- Applies a function to the text of a value; arguments make one text. -/
def Found.map (f : String → String) : Found → Found
  | .none => .none
  | .single s => .single (f s)
  | .many values _ => .single (f (Text.join " " values))

/-- Complains about a parameter without a value if that is asked for. -/
def checkSet (name : String) (found : Found) : Run Unit := do
  match found with
  | .none => if (← Run.shell).options.contains 'u' then Run.fail s!"{name}: parameter not set"
  | _ => pure ()

/-- The home directory for the text between a tilde and a slash. -/
def home (user : String) : Run (Option String) := do
  if user.isEmpty then Run.value? "HOME"
  else if user = "root" then return some "/root"
  else return none

/-- The marks of a text in front of which a tilde may stand for a directory. -/
def tilde (s : String) : Run (List Mark) := do
  match s.toList with
  | '~' :: rest =>
    let user := rest.takeWhile fun c => c ≠ '/' && c ≠ ':'
    match ← home (String.ofList user) with
    | some path => return Mark.plain true path ++ Mark.plain false (String.ofList (rest.drop user.length))
    | none => return Mark.plain false s
  | _ => return Mark.plain false s

/-- The marks of a value that is assigned: a tilde may also stand behind a colon. -/
def tildes (s : String) : Run (List Mark) := do
  let parts ← (Text.split ':' s).mapM tilde
  return (Mark.plain false ":").intercalate parts

/-- The value of a variable in an expression; without one it counts as zero. -/
def number (sh : Shell) (name : String) : Except Expression.Problem Int :=
  match (sh.bindings.lookup name).bind Variable.value with
  | none => .ok 0
  | some value =>
    match Expression.ofText? value with
    | some n => .ok n
    | none => .error (.illegal value)

def compute (text : String) : Run Int := do
  match Expression.value (number (← Run.shell)) text with
  | .ok (n, assigned) =>
    assigned.reverse.forM fun (name, n) => Run.assign name (toString n)
    return n
  | .error problem => Run.fail (problem.message text)

section
variable (capture : Command → Run String)

mutual

/-- The marks of pieces. -/
def marks : List Piece → Run (List Mark)
  | [] => return []
  | p :: rest => do
    let first ← piece p
    return first ++ (← marks rest)

def piece : Piece → Run (List Mark)
  | .text s quoted => return if quoted && s.isEmpty then [.void] else Mark.plain quoted s
  | .parameter name u quoted => do use name (← find name) quoted u
  | .output body quoted => return Mark.found quoted (← capture body)
  | .arithmetic expression quoted => do
    let text := Mark.text (← marks expression)
    return Mark.found quoted (toString (← compute text))

/-- The marks of a parameter with a value, used in some way. -/
def use (name : String) (found : Found) (quoted : Bool) : ParameterUse → Run (List Mark)
  | .value => do
    checkSet name found
    marksOf found quoted
  | .length => do
    checkSet name found
    match found with
    | .none => return Mark.found quoted "0"
    | .single s => return Mark.found quoted (toString s.length)
    | .many values _ => return Mark.found quoted (toString (Text.join " " values).length)
  | .otherwise kind evenIfEmpty word => do
    let isThere := isPresent found evenIfEmpty
    let isOther : Bool := match kind with | .replace => isThere | _ => !isThere
    if isOther then
      let other ← marks word
      match kind with
      | .assign => do
        if !isName name then Run.fail s!"{name}: bad variable name"
        Run.assign name (Mark.text other)
        return Mark.found quoted (Mark.text other)
      | .complain => do
        let usual := "parameter not set" ++ if evenIfEmpty then " or null" else ""
        let message := if word.isEmpty then usual else Mark.text other
        Run.fail s!"{name}: {message}"
      | _ => return if quoted then .void :: other else other.map Mark.asFound
    else
      match kind with
      | .replace => return if quoted then [.void] else []
      | _ => marksOf found quoted
  | .trimmed atEnd longest pattern => do
    checkSet name found
    if let .none := found then return Mark.found quoted ""
    let pattern := Pattern.ofWord (Mark.glyphs " " (← marks pattern))
    marksOf (found.map (Pattern.trimmed pattern atEnd longest)) quoted
  | .unknown => Run.fail "Bad substitution"

end

/-- The marks of a word, in front of which a tilde may stand for a directory. -/
def wordMarks (word : Word) : Run (List Mark) := do
  match word with
  | .text s false :: rest => return (← tilde s) ++ (← marks capture rest)
  | _ => marks capture word

def fields (word : Word) : Run (List String) := do
  let found := Fields.split (← Run.separators) (← wordMarks capture word)
  if (← Run.shell).options.contains 'f' then return found.map unquoted
  let files ← Run.files
  return found.flatMap (Fields.paths files)

/-- The text that a word stands for where it is not taken apart. -/
def text (word : Word) : Run String := return Mark.text (← wordMarks capture word)

def pattern (word : Word) : Run (List Pattern.Part) := do
  return Pattern.ofWord (Mark.glyphs " " (← wordMarks capture word))

def assignedText (word : Word) : Run String := do
  let found ←
    match word with
    | .text s false :: rest => do
      let first ← tildes s
      pure (first ++ (← marks capture rest))
    | _ => marks capture word
  let between := String.ofList ((← Run.separators).toList.take 1)
  let isJoined := word.any fun p => match p with | .parameter "*" _ _ => true | _ => false
  return unquoted (Mark.glyphs (if isJoined then between else " ") found)

end

end Stemcell.Rehearsal.Machine.Expansion
