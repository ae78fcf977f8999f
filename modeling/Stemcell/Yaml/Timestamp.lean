import Stemcell.Value.Basic
import Stemcell.Value.Fault
/-!
Days and times as they are written in documents: `2024-01-31`, or with a time `2024-01-31T10:20:30.5+01:00`.
-/
namespace Stemcell.Yaml.Timestamp

/-- A distance from universal time as it is written. -/
structure Zone where
  negative : Bool
  hours : Nat
  minutes : Nat

/-- A time as it is written. -/
structure Parts where
  hour : Nat
  minute : Nat
  second : Nat
  /-- The digits behind the point. -/
  fraction : List Char
  zone : Option Zone

/-- A day as it is written, and the time if there is one. -/
structure Written where
  year : Nat
  month : Nat
  day : Nat
  /-- Whether month and day have two digits each. -/
  isFull : Bool
  time : Option Parts

def number (digits : List Char) : Nat := digits.foldl (fun n c => n * 10 + (c.toNat - '0'.toNat)) 0

/-- Reads at least `least` and at most `most` digits, as many as there are. -/
def digits (least most : Nat) (s : List Char) : Option (List Char × List Char) :=
  let run := (s.take most).takeWhile Char.isDigit
  if least ≤ run.length then some (run, s.drop run.length) else none

def mark (c : Char) : List Char → Option (List Char)
  | [] => none
  | d :: rest => if d = c then some rest else none

def isSpace (c : Char) : Bool := c = ' ' || c = '\t'

/-- Reads the distance from universal time, to the end of the text. -/
def zone (s : List Char) : Option (Option Zone) :=
  match s.dropWhile isSpace with
  | [] => if s.isEmpty then some none else none
  | ['Z'] => some (some ⟨false, 0, 0⟩)
  | c :: rest => do
    if c ≠ '+' ∧ c ≠ '-' then none
    let (hours, rest) ← digits 1 2 rest
    match rest with
    | [] => some (some ⟨c = '-', number hours, 0⟩)
    | _ =>
      let (minutes, rest) ← digits 2 2 (← mark ':' rest)
      if rest.isEmpty then some (some ⟨c = '-', number hours, number minutes⟩) else none

/-- Reads a time, to the end of the text. -/
def time (s : List Char) : Option Parts := do
  let (hour, s) ← digits 1 2 s
  let (minute, s) ← digits 2 2 (← mark ':' s)
  let (second, s) ← digits 2 2 (← mark ':' s)
  let (fraction, s) :=
    match s with
    | '.' :: s => (s.takeWhile Char.isDigit, s.dropWhile Char.isDigit)
    | s => ([], s)
  return ⟨number hour, number minute, number second, fraction, ← zone s⟩

/-- What stands between day and time, taken away: the letter `T`, or spaces and tabs. -/
def dropGap : List Char → Option (List Char)
  | [] => none
  | c :: rest =>
    if c = 'T' || c = 't' then some rest else if isSpace c then some (rest.dropWhile isSpace) else none

def read? (s : List Char) : Option Written := do
  let (year, s) ← digits 4 4 s
  let (month, s) ← digits 1 2 (← mark '-' s)
  let (day, s) ← digits 1 2 (← mark '-' s)
  let isFull := month.length = 2 && day.length = 2
  match s with
  | [] => return ⟨number year, number month, number day, isFull, none⟩
  | s => return ⟨number year, number month, number day, isFull, some (← time (← dropGap s))⟩

/-- Whether a text without a tag is a day or a time. -/
def isPlain (s : List Char) : Bool :=
  match read? s with
  | some w => w.isFull || w.time.isSome
  | none => false

def daysIn (year month : Nat) : Nat :=
  if month = 2 then (if Date.isLeap year then 29 else 28)
  else if month = 4 || month = 6 || month = 9 || month = 11 then 30
  else 31

def isDay (w : Written) : Bool :=
  1 ≤ w.year && 1 ≤ w.month && w.month ≤ 12 && 1 ≤ w.day && w.day ≤ daysIn w.year w.month

/-- The millionths of a second that digits behind the point stand for; further digits are dropped. -/
def microseconds (fraction : List Char) : Nat :=
  number ((fraction ++ List.replicate 6 '0').take 6)

/-- The seconds that a distance from universal time comes to; it is less than a day. -/
def offset? (z : Zone) : Option Int :=
  let seconds := z.hours * 3600 + z.minutes * 60
  if 86400 ≤ seconds then none else some (if z.negative then -(seconds : Int) else seconds)

def Written.value? (w : Written) : Option Value :=
  if !isDay w then none
  else
    let day : Date := ⟨w.year, w.month, w.day⟩
    match w.time with
    | none => some (.date day)
    | some t =>
      if t.hour < 24 && t.minute < 60 && t.second < 60 then
        let clock : Clock := ⟨t.hour, t.minute, t.second, microseconds t.fraction⟩
        match t.zone with
        | none => some (.moment day clock none)
        | some z => (offset? z).map fun o => .moment day clock (some o)
      else none

example : isPlain "2024-1-31 1:02:03 -5".toList && isPlain "2024-01-31".toList
    && !isPlain "2024-1-2".toList := by decide +kernel

end Stemcell.Yaml.Timestamp
