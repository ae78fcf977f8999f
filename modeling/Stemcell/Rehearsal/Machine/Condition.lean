import Stemcell.Rehearsal.Machine.Disk
/-!
Conditions given as words: about texts, numbers and files, joined by words for "and", "or" and "not".
-/
namespace Stemcell.Rehearsal.Machine.Condition

/-- What is wrong with the words of a condition. -/
inductive Problem where
  /-- A word stands where an operator should. -/
  | unexpected (word : String)
  | missingArgument (operator : String)
  | notNumber (word : String)
  | unclosed
  | missingBracket
  deriving DecidableEq, Repr

/-- What the shell says about a problem. -/
def Problem.message : Problem → String
  | .unexpected word => s!"{word}: unexpected operator"
  | .missingArgument operator => s!"{operator}: argument expected"
  | .notNumber word => s!"Illegal number: {word}"
  | .unclosed => "closing paren expected"
  | .missingBracket => "missing ]"

/-- What the program for conditions says about a problem. -/
def Problem.programMessage : Problem → String
  | .unexpected word => s!"{quotation word}: binary operator expected"
  | .missingArgument operator => s!"missing argument after {quotation operator}"
  | .notNumber word => s!"invalid integer {quotation word}"
  | .unclosed => "')' expected"
  | .missingBracket => "missing ']'"

def unaryOperators : List String :=
  ["-r", "-w", "-x", "-e", "-f", "-d", "-c", "-b", "-p", "-u", "-g", "-k", "-s", "-t", "-z", "-n", "-h", "-O", "-G",
    "-L", "-S"]

/-- The operators with a word on each side. -/
def binaryOperators : List String :=
  ["=", "!=", "<", ">", "-eq", "-ne", "-ge", "-gt", "-le", "-lt", "-nt", "-ot", "-ef"]

/-- What a word is, seen with those behind it. -/
inductive Role where
  | finished
  | operand
  | unary
  | binary
  | negation
  | conjunction
  | disjunction
  | opening
  | closing
  deriving DecidableEq, Repr

def roleOf : List String → Role
  | [] => .finished
  | word :: rest =>
    if unaryOperators.contains word then
      match rest with
      | [] => .operand
      | [_] => .unary
      | next :: _ => if binaryOperators.contains next then .operand else .unary
    else if binaryOperators.contains word then .binary
    else if word = "!" then .negation
    else if word = "-a" then .conjunction
    else if word = "-o" then .disjunction
    else if word = "(" then if rest.isEmpty then .operand else .opening
    else if word = ")" then .closing
    else .operand

/-- The whole number that a word is, with blanks around it. -/
def numberOf (word : String) : Except Problem Int :=
  let isBlank (c : Char) : Bool := c = ' ' || ('\t' ≤ c && c ≤ '\r')
  let inner := ((word.toList.dropWhile isBlank).reverse.dropWhile isBlank).reverse
  match integer? (String.ofList inner) with
  | some n => .ok n
  | none => .error (.notNumber word)

def fileHolds (files : Files) (operator path : String) : Bool :=
  let found := if operator = "-h" || operator = "-L" then Disk.plainNode files (readable path)
    else Disk.node files (readable path)
  match found, operator with
  | .error _, _ => false
  | .ok (.file _), "-f" => true
  | .ok (.file data), "-s" => !data.isEmpty
  | .ok (.directory _), "-d" | .ok (.directory _), "-s" => true
  | .ok (.link _), "-h" | .ok (.link _), "-L" => true
  | .ok (.device _), "-c" => true
  | .ok _, "-e" | .ok _, "-r" | .ok _, "-w" | .ok _, "-O" | .ok _, "-G" => true
  | .ok (.directory _), "-x" => true
  | .ok (.file data), "-x" => data.head? = some 0x7f
  | .ok _, _ => false

def unary (files : Files) (operator word : String) : Except Problem Bool :=
  match operator with
  | "-n" => .ok !word.isEmpty
  | "-z" => .ok word.isEmpty
  | "-t" => do
    let _ ← numberOf word
    return false
  | _ => .ok (fileHolds files operator word)

/-- Whether an operator holds between two words. -/
def binary (files : Files) (a operator b : String) : Except Problem Bool :=
  let compare (p : Int → Int → Bool) : Except Problem Bool := do
    let x ← numberOf a
    let y ← numberOf b
    return p x y
  match operator with
  | "=" => .ok (a = b)
  | "!=" => .ok (a ≠ b)
  | "<" => .ok (a < b)
  | ">" => .ok (b < a)
  | "-eq" => compare (· = ·)
  | "-ne" => compare (· ≠ ·)
  | "-ge" => compare (· ≥ ·)
  | "-gt" => compare (· > ·)
  | "-le" => compare (· ≤ ·)
  | "-lt" => compare (· < ·)
  | "-ef" =>
    match Disk.way files (readable a), Disk.way files (readable b) with
    | .ok x, .ok y => .ok (x = y && (Disk.node files (readable a)).isOk)
    | _, _ => .ok false
  | "-nt" => .ok ((Disk.node files (readable a)).isOk && !(Disk.node files (readable b)).isOk)
  | _ => .ok ((Disk.node files (readable b)).isOk && !(Disk.node files (readable a)).isOk)

section
variable (files : Files)

mutual

/-- Reads conditions of which one must hold: the result, and the words from the last one read on. -/
def disjunction (words : List String) : Nat → Except Problem (Bool × List String)
  | 0 => .ok (false, words)
  | fuel + 1 => do
    let (a, words) ← conjunction words fuel
    if roleOf (words.drop 1) = .disjunction then
      let (b, words) ← disjunction (words.drop 2) fuel
      return (a || b, words)
    else return (a, words)

/-- Reads conditions that must all hold. -/
def conjunction (words : List String) : Nat → Except Problem (Bool × List String)
  | 0 => .ok (false, words)
  | fuel + 1 => do
    let (a, words) ← negation words fuel
    if roleOf (words.drop 1) = .conjunction then
      let (b, words) ← conjunction (words.drop 2) fuel
      return (a && b, words)
    else return (a, words)

def negation (words : List String) : Nat → Except Problem (Bool × List String)
  | 0 => .ok (false, words)
  | fuel + 1 => do
    if roleOf words = .negation then
      if words.length = 1 then return (true, words)
      else
        let (a, words) ← negation (words.drop 1) fuel
        return (!a, words)
    else primary words fuel

/-- Reads a single condition, or several in parentheses. -/
def primary (words : List String) : Nat → Except Problem (Bool × List String)
  | 0 => .ok (false, words)
  | fuel + 1 => do
    match roleOf words, words with
    | .finished, _ | _, [] => return (false, words)
    | .opening, _ :: rest =>
      if roleOf rest = .closing then return (false, rest)
      else
        let (a, words) ← disjunction rest fuel
        match roleOf (words.drop 1) with
        | .closing => return (a, words.drop 1)
        | _ => throw .unclosed
    | .unary, operator :: rest =>
      match rest with
      | [] => throw (.missingArgument operator)
      | word :: _ => return (← unary files operator word, rest)
    | _, a :: rest =>
      match roleOf rest, rest with
      | .binary, operator :: b :: more => return (← binary files a operator b, b :: more)
      | .binary, [operator] => throw (.missingArgument operator)
      | _, _ => return (!a.isEmpty, words)

end

def whole (words : List String) : Except Problem Bool := do
  let (holds, words) ← disjunction files words (8 * words.length + 8)
  match words with
  | word :: _ :: _ => throw (.unexpected word)
  | _ => return holds

/-- Whether three words are a condition that holds. An operator between two others is taken for that before all
else, and a negation or parentheses before any other sense. -/
def holdsOfThree (a operator b : String) : Except Problem Bool :=
  if binaryOperators.contains operator then binary files a operator b
  else if a = "(" && b = ")" then whole files [operator]
  else if a = "!" then (whole files [operator, b]).map (!·)
  else whole files [a, operator, b]

/-- Whether words are a condition that holds. A negation of three words or parentheses around two are taken for that
before any other sense. -/
def holds (words : List String) : Except Problem Bool :=
  match words with
  | [] => .ok false
  | [a, operator, b] => holdsOfThree files a operator b
  | ["!", a, operator, b] => (holdsOfThree files a operator b).map (!·)
  | ["(", a, b, ")"] => whole files [a, b]
  | _ => whole files words

end

def status (files : Files) (name : String) (words : List String) : Int × Option Problem :=
  let judge (words : List String) : Int × Option Problem :=
    match holds files words with
    | .ok true => (0, none)
    | .ok false => (1, none)
    | .error problem => (2, some problem)
  if name = "[" then
    if words.getLast? = some "]" then judge words.dropLast else (2, some .missingBracket)
  else judge words

example : status {} "[" ["1", "-lt", "2", "-a", "!", "x", "=", "y", "]"] = (0, none) := by decide +kernel
example : status {} "test" ["a", "b"] = (2, some (.unexpected "a")) := by decide +kernel

end Stemcell.Rehearsal.Machine.Condition
