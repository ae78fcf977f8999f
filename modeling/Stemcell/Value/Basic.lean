import Stemcell.Number.Binary64
import Stemcell.Text.Surrogate
/-!
Values as a document, a program's answer or a caller hands them over: what a parameter is, is known only once
it has been looked at. Mappings and sets keep the order in which their entries came.
-/
namespace Stemcell

open Number

structure Date where
  year : Nat
  month : Nat
  day : Nat
  deriving DecidableEq, Repr, Inhabited

namespace Date

/-- The number of days before the first of a month in a year that has no day more. -/
def daysBefore (month : Nat) : Nat :=
  ([31, 28, 31, 30, 31, 30, 31, 31, 30, 31, 30, 31].take (month - 1)).foldl (· + ·) 0

def isLeap (year : Nat) : Bool := year % 4 = 0 && (year % 100 ≠ 0 || year % 400 = 0)

def number (d : Date) : Nat :=
  let years := d.year - 1
  let extra := if isLeap d.year && 2 < d.month then 1 else 0
  years * 365 + years / 4 - years / 100 + years / 400 + daysBefore d.month + extra + d.day

end Date

/-- A time of day, to the microsecond. -/
structure Clock where
  hour : Nat
  minute : Nat
  second : Nat
  microsecond : Nat
  deriving DecidableEq, Repr, Inhabited

def Clock.seconds (t : Clock) : Nat := t.hour * 3600 + t.minute * 60 + t.second

inductive Value where
  | null
  | bool (b : Bool)
  | int (n : Int)
  | float (x : Binary64)
  | text (s : String)
  /-- A text, by the numbers of its characters, in which a half of a pair of surrogates stands as a character. -/
  | ragged (codes : List Nat)
  | bytes (data : List UInt8)
  | date (day : Date)
  /-- A time on a day, with its distance from universal time in seconds where that is known. -/
  | moment (day : Date) (time : Clock) (offset : Option Int)
  | list (items : List Value)
  | pair (first second : Value)
  | set (items : List Value)
  | mapping (entries : List (Value × Value))
  /-- The list or mapping further out that is an item of itself here. -/
  | enclosing (isMapping : Bool)
  deriving Repr, Inhabited

namespace Value

inductive Kind where
  | null | bool | int | float | text | bytes | date | moment | list | pair | set | mapping
  deriving DecidableEq, Repr

def kind : Value → Kind
  | .null => .null
  | .bool _ => .bool
  | .int _ => .int
  | .float _ => .float
  | .text _ | .ragged _ => .text
  | .bytes _ => .bytes
  | .date _ => .date
  | .moment .. => .moment
  | .list _ => .list
  | .pair .. => .pair
  | .set _ => .set
  | .mapping _ => .mapping
  | .enclosing isMapping => if isMapping then .mapping else .list

def ofCodes (codes : List Nat) : Value :=
  if codes.any Text.Surrogate.isHalf then .ragged codes else .text (String.ofList (codes.map Char.ofNat))

def codes? : Value → Option (List Nat)
  | .text s => some (s.toList.map Char.toNat)
  | .ragged codes => some codes
  | _ => none

/-- Whether a value counts as given: zero, the empty text, an empty collection, `false` and nothing do not. -/
def isTruthy : Value → Bool
  | .null => false
  | .bool b => b
  | .int n => n ≠ 0
  | .float x => !x.isZero
  | .text s => !s.isEmpty
  | .ragged codes => !codes.isEmpty
  | .bytes data => !data.isEmpty
  | .list items => !items.isEmpty
  | .set items => !items.isEmpty
  | .mapping entries => !entries.isEmpty
  | .date _ | .moment .. | .pair .. | .enclosing _ => true

/-- The number that a value of a numeric kind stands for; `true` counts as one. -/
def number? : Value → Option (Int ⊕ Binary64)
  | .bool b => some (.inl (if b then 1 else 0))
  | .int n => some (.inl n)
  | .float x => some (.inr x)
  | _ => none

def sameNumber : Int ⊕ Binary64 → Int ⊕ Binary64 → Bool
  | .inl n, .inl m => n = m
  | .inl n, .inr y => y.sameInt n
  | .inr x, .inl m => x.sameInt m
  | .inr x, .inr y => x.same y

def isZero (v : Value) : Bool :=
  match v.number? with
  | some n => sameNumber n (.inl 0)
  | none => false

/-- The seconds of universal time at a time on a day. -/
def instant (day : Date) (time : Clock) (offset : Int) : Int :=
  (day.number * 86400 + time.seconds : Nat) - offset

/-- Whether two values that are no collections are equal; numbers are compared as numbers, whatever their kind, and
times whose distance from universal time is known as points in time. -/
def sameAtom (v w : Value) : Bool :=
  match v.number?, w.number? with
  | some n, some m => sameNumber n m
  | none, none =>
    match v, w with
    | .null, .null => true
    | .text s, .text t => s = t
    | .ragged s, .ragged t => s = t
    | .bytes a, .bytes b => a = b
    | .date a, .date b => a = b
    | .moment d t none, .moment d' t' none => d = d' && t = t'
    | .moment d t (some z), .moment d' t' (some z') =>
      instant d t z = instant d' t' z' && t.microsecond = t'.microsecond
    | _, _ => false
  | _, _ => false

/-- Whether a value can be a key: collections that can change cannot. -/
def isKey : Value → Bool
  | .list _ | .set _ | .mapping _ | .enclosing _ => false
  | .pair first second => first.isKey && second.isKey
  | _ => true

def sameKey : Value → Value → Bool
  | .pair a b, .pair c d => a.sameKey c && b.sameKey d
  | v, w => sameAtom v w

/-- Enters a value under a key: the key keeps its first place and spelling, the last value counts. -/
def insertEntry (key value : Value) : List (Value × Value) → List (Value × Value)
  | [] => [(key, value)]
  | (k, v) :: rest => if k.sameKey key then (k, value) :: rest else (k, v) :: insertEntry key value rest

def entry? (key : Value) (entries : List (Value × Value)) : Option Value :=
  (entries.find? fun e => e.1.sameKey key).map Prod.snd

def field? (name : String) (entries : List (Value × Value)) : Option Value := entry? (.text name) entries

end Value

end Stemcell
