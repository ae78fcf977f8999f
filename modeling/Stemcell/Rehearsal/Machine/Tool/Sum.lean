import Stemcell.Rehearsal.Machine.Regex
import Stemcell.Rehearsal.Machine.Tool.Writing
/-!
A tool that computes with words: numbers, comparisons, and parts of texts.
-/
namespace Stemcell.Rehearsal.Machine.Tool

namespace Sum

/-- Why there is no result. -/
inductive Problem where
  | missing (after : Option String)
  | unexpected (word : String)
  | expecting (word last : String)
  | notInteger
  | zeroDivision
  | pattern (message : String)

def Problem.message : Problem → String
  | .missing none => "syntax error: unexpected end"
  | .missing (some word) => s!"syntax error: missing argument after {quotation word}"
  | .unexpected word => s!"syntax error: unexpected argument {quotation word}"
  | .expecting word last => s!"syntax error: expecting {quotation word} after {quotation last}"
  | .notInteger => "non-integer argument"
  | .zeroDivision => "division by zero"
  | .pattern message => message

/-- The words that are left, and the last one that was read. -/
structure Reading where
  rest : List String
  last : Option String := none

abbrev Reader (α : Type) := StateT Reading (Except Problem) α

def next? (words : List String) : Reader (Option String) := do
  match (← get).rest with
  | word :: rest =>
    if words.contains word then
      set ({ rest, last := some word } : Reading)
      return some word
    else return none
  | [] => return none

def next : Reader String := do
  let s ← get
  match s.rest with
  | word :: rest =>
    set ({ rest, last := some word } : Reading)
    return word
  | [] => throw (.missing s.last)

def whole? (s : String) : Option Int := if s.startsWith "+" then none else integer? s

def whole (s : String) : Reader Int := do
  match whole? s with
  | some n => return n
  | none => throw .notInteger

/-- Whether a text stands for nothing: it is empty or a zero. -/
def isNull (s : String) : Bool :=
  match s.toList with
  | [] => true
  | '-' :: rest => !rest.isEmpty && rest.all (· = '0')
  | chars => chars.all (· = '0')

/-- What a pattern says of the beginning of a text: the text of its group, or how long it is. -/
def matched (s pattern : String) : Reader String := do
  match Regex.read false pattern with
  | .error message => throw (.pattern message)
  | .ok r =>
    let hasGroup := Text.contains pattern "\\("
    match Regex.matchAt? false r { before := [], after := s.toList } with
    | none => return if hasGroup then "" else "0"
    | some p =>
      if hasGroup then return String.ofList ((p.groups.lookup 1).getD []) else return toString p.offset

/-- Whether an operator holds between two texts: as numbers if both are. -/
def holds (op a b : String) : Bool :=
  let order :=
    match whole? a, whole? b with
    | some x, some y => if x < y then Ordering.lt else if y < x then .gt else .eq
    | _, _ => if a < b then .lt else if b < a then .gt else .eq
  match op with
  | "<" => order = .lt
  | "<=" => order ≠ .gt
  | "=" | "==" => order = .eq
  | "!=" => order ≠ .eq
  | ">=" => order ≠ .lt
  | _ => order = .gt

/-- Where the first of some characters stands in a text, from one; zero if there is none. -/
def indexOf (s chars : String) : Nat :=
  let before := s.toList.takeWhile fun c => !chars.toList.contains c
  if before.length = s.length then 0 else before.length + 1

mutual

def alternatives : Nat → Reader String
  | 0 => return ""
  | fuel + 1 => do more "|" (← conjuncts fuel) fuel

/-- Goes on with an operator that chooses between texts. -/
def more (op : String) (left : String) : Nat → Reader String
  | 0 => return left
  | fuel + 1 => do
    match ← next? [op] with
    | none => return left
    | some _ =>
      if op = "|" then
        let right ← conjuncts fuel
        more op (if !isNull left then left else if !isNull right then right else "0") fuel
      else
        let right ← comparisons fuel
        more op (if isNull left || isNull right then "0" else left) fuel

/-- Computes what must not be nothing on both sides. -/
def conjuncts : Nat → Reader String
  | 0 => return ""
  | fuel + 1 => do more "&" (← comparisons fuel) fuel

def comparisons : Nat → Reader String
  | 0 => return ""
  | fuel + 1 => do compared (← sums fuel) fuel

def compared (left : String) : Nat → Reader String
  | 0 => return left
  | fuel + 1 => do
    match ← next? ["<", "<=", "=", "==", "!=", ">=", ">"] with
    | none => return left
    | some op =>
      let right ← sums fuel
      compared (if holds op left right then "1" else "0") fuel

def sums : Nat → Reader String
  | 0 => return ""
  | fuel + 1 => do added (← products fuel) fuel

def added (left : String) : Nat → Reader String
  | 0 => return left
  | fuel + 1 => do
    match ← next? ["+", "-"] with
    | none => return left
    | some op =>
      let right ← products fuel
      let a ← whole left
      let b ← whole right
      added (toString (if op = "+" then a + b else a - b)) fuel

def products : Nat → Reader String
  | 0 => return ""
  | fuel + 1 => do multiplied (← comparedTexts fuel) fuel

def multiplied (left : String) : Nat → Reader String
  | 0 => return left
  | fuel + 1 => do
    match ← next? ["*", "/", "%"] with
    | none => return left
    | some op =>
      let right ← comparedTexts fuel
      let a ← whole left
      let b ← whole right
      if op ≠ "*" && b = 0 then throw .zeroDivision
      multiplied (toString (if op = "*" then a * b else if op = "/" then a.tdiv b else a.tmod b)) fuel

def comparedTexts : Nat → Reader String
  | 0 => return ""
  | fuel + 1 => do continued (← keywords fuel) fuel

def continued (left : String) : Nat → Reader String
  | 0 => return left
  | fuel + 1 => do
    match ← next? [":"] with
    | none => return left
    | some _ =>
      let right ← keywords fuel
      continued (← matched left right) fuel

/-- Computes what a word for a function says. -/
def keywords : Nat → Reader String
  | 0 => return ""
  | fuel + 1 => do
    match ← next? ["+", "length", "match", "index", "substr"] with
    | some "+" => next
    | some "length" => return toString (← keywords fuel).length
    | some "match" =>
      let s ← keywords fuel
      let pattern ← keywords fuel
      matched s pattern
    | some "index" =>
      let s ← keywords fuel
      let chars ← keywords fuel
      return toString (indexOf s chars)
    | some "substr" =>
      let s ← keywords fuel
      let place := whole? (← keywords fuel)
      let count := whole? (← keywords fuel)
      match place, count with
      | some place, some count =>
        if place < 1 || count < 1 then return ""
        else return String.ofList ((s.toList.drop (place - 1).toNat).take count.toNat)
      | _, _ => return ""
    | _ => primary fuel

/-- Computes a word, or what stands in parentheses. -/
def primary : Nat → Reader String
  | 0 => return ""
  | fuel + 1 => do
    match ← next? ["(", ")"] with
    | some "(" =>
      let value ← alternatives fuel
      let s ← get
      match ← next? [")"] with
      | some _ => return value
      | none => throw (.expecting ")" (s.last.getD ""))
    | some word => throw (.unexpected word)
    | none => next

end

def value (words : List String) : Except Problem String := do
  let (value, s) ← (alternatives (16 * words.length + 16)).run { rest := words }
  match s.rest with
  | [] => return value
  | word :: _ => throw (.unexpected word)

end Sum

/-- Writes the value of its arguments. -/
def expr (call : Call) : ToolResult :=
  let arguments := if call.arguments.head? = some "--" then call.arguments.drop 1 else call.arguments
  if arguments.isEmpty then call.usage "missing operand" 2
  else
    match Sum.value arguments with
    | .ok value => { ToolResult.ofLines [value] with status := if Sum.isNull value then 1 else 0 }
    | .error problem => call.refuse problem.message 2

def primeFactors : Nat → Nat → Nat → List Nat
  | 0, _, n => [n]
  | fuel + 1, p, n =>
    if n ≤ 1 then []
    else if n < p * p then [n]
    else if n % p = 0 then p :: primeFactors fuel p (n / p)
    else primeFactors fuel (p + 1) n

/-- Writes the prime factors of numbers. -/
def factor (call : Call) : ToolResult :=
  let words := if call.arguments.isEmpty then (linesOf call.input).flatMap fun l => Text.split ' ' l else call.arguments
  let lines := (words.filterMap decimal?).map fun n =>
    Text.join " " (s!"{n}:" :: (primeFactors 100000 2 n).map toString)
  (ToolResult.ofLines lines).complaining ((words.filter fun w => (decimal? w).isNone).map fun w =>
    s!"{call.name}: {quotation w} is not a valid positive integer")

end Stemcell.Rehearsal.Machine.Tool
