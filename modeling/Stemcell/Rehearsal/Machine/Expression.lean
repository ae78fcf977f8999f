import Stemcell.Rehearsal.Machine.Script
/-!
Expressions over whole numbers of 64 bits, as scripts write them: the operators with their ranks, a choice, and
assignments to variables. `Expression.read` reads one and `Expression.eval` finds its value. What is wrong with the
text of an expression is a part of it, so that of several problems the first from the left is found.
-/
namespace Stemcell.Rehearsal.Machine

/-- The operators with two sides that both count. -/
inductive Operator where
  | times | dividedBy | modulo | plus | minus | shiftLeft | shiftRight
  | below | atMost | above | atLeast | same | different
  | bitAnd | bitXor | bitOr
  deriving DecidableEq, Repr

inductive Expression where
  | number (n : Int)
  | named (name : String)
  | opposite (e : Expression)
  | complement (e : Expression)
  | isZero (e : Expression)
  | binary (op : Operator) (a b : Expression)
  | both (a b : Expression)
  | either (a b : Expression)
  | choice (condition a b : Expression)
  /-- An assignment, for which the old value may count too. -/
  | assign (name : String) (op : Option Operator) (e : Expression)
  /-- A place where something else should stand. -/
  | flaw (what : String)
  /-- An expression behind which something else should stand. -/
  | unfinished (e : Expression) (what : String)
  deriving Repr, Inhabited

/-- Why an expression has no value. -/
inductive Expression.Problem where
  | expecting (what : String)
  | zeroDivision
  /-- A variable whose value is no number. -/
  | illegal (value : String)
  deriving DecidableEq, Repr

namespace Operator

/-- The signs of the operators, the longer ones before their beginnings. -/
def signs : List (String × Operator) :=
  [("<<", shiftLeft), (">>", shiftRight), ("<=", atMost), (">=", atLeast), ("==", same), ("!=", different),
    ("*", times), ("/", dividedBy), ("%", modulo), ("+", plus), ("-", minus), ("<", below), (">", above), ("&", bitAnd),
    ("^", bitXor), ("|", bitOr)]

/-- The rank of an operator: a lower one binds its sides more closely. -/
def rank : Operator → Nat
  | times | dividedBy | modulo => 1
  | plus | minus => 2
  | shiftLeft | shiftRight => 3
  | below | atMost | above | atLeast => 4
  | same | different => 5
  | bitAnd => 6
  | bitXor => 7
  | bitOr => 8

def lastRank : Nat := 8

/-- Whether an assignment can take the old value to an operator. -/
def isAssignable : Operator → Bool
  | below | atMost | above | atLeast | same | different => false
  | _ => true

end Operator

namespace Expression

/-- A whole number in 64 bits. -/
def wrap (n : Int) : Int := n.bmod (Nat.pow 2 64)

def bits (n : Int) : Nat := (n % (Nat.pow 2 64 : Int)).toNat

def apply (op : Operator) (a b : Int) : Except Problem Int :=
  let truth (c : Bool) : Except Problem Int := .ok (if c then 1 else 0)
  match op with
  | .times => .ok (wrap (a * b))
  | .dividedBy => if b = 0 then .error .zeroDivision else .ok (wrap (a.tdiv b))
  | .modulo => if b = 0 then .error .zeroDivision else .ok (wrap (a.tmod b))
  | .plus => .ok (wrap (a + b))
  | .minus => .ok (wrap (a - b))
  | .shiftLeft => .ok (wrap (a * (Nat.pow 2 (bits b % 64) : Int)))
  | .shiftRight => .ok (a.fdiv (Nat.pow 2 (bits b % 64) : Int))
  | .below => truth (a < b)
  | .atMost => truth (a ≤ b)
  | .above => truth (b < a)
  | .atLeast => truth (b ≤ a)
  | .same => truth (a = b)
  | .different => truth (a ≠ b)
  | .bitAnd => .ok (wrap (bits a &&& bits b : Nat))
  | .bitXor => .ok (wrap (bits a ^^^ bits b : Nat))
  | .bitOr => .ok (wrap (bits a ||| bits b : Nat))

/-- A part of the text of an expression. -/
inductive Token where
  | number (n : Int)
  | name (s : String)
  | operator (op : Operator)
  /-- An operator with a sign of equality behind it. -/
  | update (op : Operator)
  | sign (s : String)
  deriving DecidableEq, Repr

def digitValue (c : Char) : Nat :=
  if c.isDigit then c.toNat - '0'.toNat else c.toLower.toNat - 'a'.toNat + 10

def ofDigits (base : Nat) (s : List Char) : Nat := s.foldl (fun n c => n * base + digitValue c) 0

/-- The number at the front of a text, and what is left. A zero in front means base 8, and with an x base 16. -/
def numberAt (s : List Char) : Nat × List Char :=
  let isHex (c : Char) : Bool := c.isDigit || ('a' ≤ c.toLower && c.toLower ≤ 'f')
  match s with
  | '0' :: x :: c :: rest =>
    if x.toLower = 'x' && isHex c then
      let digits := (c :: rest).takeWhile isHex
      (ofDigits 16 digits, (c :: rest).drop digits.length)
    else
      let digits := (x :: c :: rest).takeWhile fun c => '0' ≤ c && c ≤ '7'
      (ofDigits 8 digits, (x :: c :: rest).drop digits.length)
  | '0' :: rest =>
    let digits := rest.takeWhile fun c => '0' ≤ c && c ≤ '7'
    (ofDigits 8 digits, rest.drop digits.length)
  | _ =>
    let digits := s.takeWhile Char.isDigit
    (ofDigits 10 digits, s.drop digits.length)

/-- The least and the greatest number of 64 bits. -/
def least : Int := -(Nat.pow 2 63 : Int)

def greatest : Int := (Nat.pow 2 63 : Int) - 1

/-- The number that a text is: blanks, a sign, digits; nothing of it need be there. A text that goes on behind the
number is none, nor is one that is too large. -/
def ofText? (s : String) : Option Int :=
  let isBlank (c : Char) : Bool := c = ' ' || ('\t' ≤ c && c ≤ '\r')
  let s := s.toList.dropWhile isBlank
  let (isNegative, s) := match s with | '-' :: rest => (true, rest) | '+' :: rest => (false, rest) | _ => (false, s)
  let (n, rest) := numberAt s
  let value : Int := if isNegative then -(n : Int) else n
  if (rest.dropWhile isBlank).isEmpty && least ≤ value && value ≤ greatest then some value else none

/-- The signs that are no operators with two sides. -/
def otherSigns : List String := ["&&", "||", "(", ")", "?", ":", "=", "!", "~"]

/-- The parts of the text of an expression. What is no part ends it. -/
def tokens : Nat → List Char → List Token
  | 0, _ => []
  | fuel + 1, s =>
    match s with
    | [] => []
    | c :: rest =>
      if c = ' ' || c = '\t' || c = '\n' then tokens fuel rest
      else if c.isDigit then
        let (n, rest) := numberAt s
        .number (min (n : Int) greatest) :: tokens fuel rest
      else if isNameChar c then
        let name := s.takeWhile isNameChar
        .name (String.ofList name) :: tokens fuel (s.drop name.length)
      else
        let starts (sign : String) : Bool := sign.toList.isPrefixOf s
        match ["&&", "||"].find? starts with
        | some sign => .sign sign :: tokens fuel (s.drop 2)
        | none =>
          match Operator.signs.find? (starts ·.1) with
          | some (sign, op) =>
            match s.drop sign.length with
            | '=' :: rest =>
              if op.isAssignable then .update op :: tokens fuel rest else .operator op :: tokens fuel ('=' :: rest)
            | rest => .operator op :: tokens fuel rest
          | none =>
            match otherSigns.find? starts with
            | some sign => .sign sign :: tokens fuel (s.drop sign.length)
            | none => [.sign (String.singleton c)]

abbrev Reader (α : Type) := StateM (List Token) α

def peek : Reader (Option Token) := return (← get).head?

/-- Goes behind the next part. -/
def advance : Reader Unit := modify (List.drop 1)

def stop (e : Expression) : Reader Expression := do
  set ([] : List Token)
  return e

mutual

/-- Reads an assignment or anything that binds more closely. -/
def assignment : Nat → Reader Expression
  | 0 => stop (.flaw "primary")
  | fuel + 1 => do
    match ← get with
    | .name name :: .sign "=" :: rest =>
      set rest
      return .assign name none (← assignment fuel)
    | .name name :: .update op :: rest =>
      set rest
      return .assign name (some op) (← assignment fuel)
    | _ => conditional fuel

/-- Reads a choice or anything that binds more closely. -/
def conditional : Nat → Reader Expression
  | 0 => stop (.flaw "primary")
  | fuel + 1 => do
    let condition ← alternatives fuel
    if (← peek) = some (.sign "?") then
      advance
      let a ← assignment fuel
      if (← peek) = some (.sign ":") then
        advance
        return .choice condition a (← conditional fuel)
      else stop (.choice condition (.unfinished a "':'") (.number 0))
    else return condition

def alternatives : Nat → Reader Expression
  | 0 => stop (.flaw "primary")
  | fuel + 1 => do
    let a ← conjuncts fuel
    if (← peek) = some (.sign "||") then
      advance
      return .either a (← alternatives fuel)
    else return a

/-- Reads conditions that must all hold. -/
def conjuncts : Nat → Reader Expression
  | 0 => stop (.flaw "primary")
  | fuel + 1 => do
    let a ← ranked Operator.lastRank (← primary fuel) fuel
    if (← peek) = some (.sign "&&") then
      advance
      return .both a (← conjuncts fuel)
    else return a

/-- Reads operators up to a rank with their right sides, behind a left side. -/
def ranked (rank : Nat) (left : Expression) : Nat → Reader Expression
  | 0 => return left
  | fuel + 1 => do
    match ← peek with
    | some (.operator op) =>
      if rank < op.rank then return left
      else
        advance
        let right ← ranked (op.rank - 1) (← primary fuel) fuel
        ranked rank (.binary op left right) fuel
    | _ => return left

/-- Reads a number, a variable, an expression in parentheses, or one of these behind a sign. -/
def primary : Nat → Reader Expression
  | 0 => stop (.flaw "primary")
  | fuel + 1 => do
    let next ← peek
    advance
    match next with
    | some (.number n) => return .number n
    | some (.name s) => return .named s
    | some (.operator .plus) => primary fuel
    | some (.operator .minus) => return .opposite (← primary fuel)
    | some (.sign "!") => return .isZero (← primary fuel)
    | some (.sign "~") => return .complement (← primary fuel)
    | some (.sign "(") =>
      let e ← assignment fuel
      if (← peek) = some (.sign ")") then
        advance
        return e
      else stop (.unfinished e "')'")
    | _ => stop (.flaw "primary")

end

def read (text : String) : Expression :=
  let parts := tokens (text.length + 1) text.toList
  let (e, rest) := (assignment (8 * parts.length + 8)).run parts
  if rest.isEmpty then e else .unfinished e "EOF"

/-- A step of evaluation: the variables that were given values stand before those that had them. -/
abbrev Evaluation (α : Type) := StateT (List (String × Int)) (Except Problem) α

def valueOf (known : String → Except Problem Int) (name : String) : Evaluation Int := do
  match (← get).find? (·.1 = name) with
  | some (_, n) => return n
  | none => known name

/-- The value of an expression. Of what is not chosen only the flaws count. -/
def eval (known : String → Except Problem Int) (isChosen : Bool) : Expression → Evaluation Int
  | .number n => return n
  | .named name => if isChosen then valueOf known name else return 0
  | .opposite e => return wrap (-(← eval known isChosen e))
  | .complement e => return -1 - (← eval known isChosen e)
  | .isZero e => return if (← eval known isChosen e) = 0 then 1 else 0
  | .binary op a b => do
    let x ← eval known isChosen a
    let y ← eval known isChosen b
    if isChosen then apply op x y else return 0
  | .both a b => do
    let x ← eval known isChosen a
    let y ← eval known (isChosen && x ≠ 0) b
    return if x = 0 || y = 0 then 0 else 1
  | .either a b => do
    let x ← eval known isChosen a
    let y ← eval known (isChosen && x = 0) b
    return if x = 0 && y = 0 then 0 else 1
  | .choice condition a b => do
    let c ← eval known isChosen condition
    let x ← eval known (isChosen && c ≠ 0) a
    let y ← eval known (isChosen && c = 0) b
    return if c = 0 then y else x
  | .assign name op e => do
    let n ← eval known isChosen e
    if !isChosen then return n
    let n ←
      match op with
      | none => pure n
      | some op => do apply op (← valueOf known name) n
    modify fun assigned => (name, n) :: assigned
    return n
  | .flaw what => throw (.expecting what)
  | .unfinished e what => do
    let _ ← eval known isChosen e
    throw (.expecting what)

/-- The value of the text of an expression, and the values of the variables that it assigns. -/
def value (known : String → Except Problem Int) (text : String) : Except Problem (Int × List (String × Int)) := do
  (eval known true (read text)).run []

def Problem.message (text : String) : Problem → String
  | .expecting what => s!"arithmetic expression: expecting {what}: \"{text}\""
  | .zeroDivision => s!"arithmetic expression: division by zero: \"{text}\""
  | .illegal value => s!"Illegal number: {value}"

example : (value (fun _ => .ok 5) "x = 2 + 3*4, 1").toOption = none := by decide +kernel
example : ((value (fun _ => .ok 5) "(1<<4) - x % 3 == 14 ? -7/2 : 0").toOption.map Prod.fst) = some (-3) := by
  decide +kernel

end Expression

end Stemcell.Rehearsal.Machine
