import Std.Data.HashSet
import Stemcell.Rehearsal.Machine.Pattern
/-!
Regular expressions in the two spellings of the tools: in the basic one the marks for groups and counts stand behind
a backslash, in the extended one they stand alone. A match is the one that starts first, and of those the longest.
-/
namespace Stemcell.Rehearsal.Machine

/-- A regular expression. -/
inductive Regex where
  | empty
  | char (c : Char)
  | anyChar
  | oneOf (isNegated : Bool) (ranges : List (Char × Char))
  | lineStart
  | lineEnd
  /-- A place where a word begins, ends, or does one of both. -/
  | wordEdge (atStart atEnd : Bool)
  /-- A place where no word begins or ends. -/
  | wordInside
  | group (number : Nat) (r : Regex)
  /-- The text that a group stands for. -/
  | again (number : Nat)
  | both (a b : Regex)
  | either (a b : Regex)
  | many (r : Regex) (least : Nat) (most : Option Nat)
  deriving Repr, Inhabited

namespace Regex

/-! ### Reading -/

/-- The rest of the text of an expression, and how many groups were opened. -/
structure Reading where
  rest : List Char
  groups : Nat := 0

/-- A step of reading; a text says what is wrong. -/
abbrev Reader (α : Type) := StateT Reading (Except String) α

/-- Goes behind some characters. -/
def drop (n : Nat) : Reader Unit := modify fun s => { s with rest := s.rest.drop n }

/-- A number at the front of a text, and what is left. -/
def numberAt (s : List Char) : Option Nat × List Char :=
  let digits := s.takeWhile Char.isDigit
  (decimal? (String.ofList digits), s.drop digits.length)

/-- The least and the greatest count between braces, and what is left behind the closing mark. -/
def countsAt (closing : List Char) (s : List Char) : Option (Nat × Option Nat × List Char) :=
  let (least, rest) := numberAt s
  let close (most : Option Nat) (rest : List Char) : Option (Nat × Option Nat × List Char) :=
    if closing.isPrefixOf rest then some (least.getD 0, most, rest.drop closing.length) else none
  match rest with
  | ',' :: more =>
    let (most, rest) := numberAt more
    close most rest
  | _ => if least.isSome then close least rest else none

/-- The brackets at the front of a text, behind the first of them. -/
def bracketAt (s : List Char) : Option (Regex × List Char) :=
  let (isNegated, s) := match s with | '^' :: rest => (true, rest) | _ => (false, s)
  let marks := s.map fun c => (⟨c, c = '\\'⟩ : Glyph)
  (Pattern.rangesOf true [] (marks.length + 1) marks).map fun (ranges, rest) =>
    (.oneOf isNegated ranges, rest.map Glyph.char)

def wordRanges : List (Char × Char) := ('_', '_') :: Pattern.classRanges "alnum"

/-- What a letter behind a backslash stands for in both spellings. -/
def escaped (c : Char) : Regex :=
  match c with
  | 'w' => .oneOf false wordRanges
  | 'W' => .oneOf true wordRanges
  | 's' => .oneOf false (Pattern.classRanges "space")
  | 'S' => .oneOf true (Pattern.classRanges "space")
  | '<' => .wordEdge true false
  | '>' => .wordEdge false true
  | 'b' => .wordEdge true true
  | 'B' => .wordInside
  | 'n' => .char '\n'
  | 't' => .char '\t'
  | _ => if c.isDigit && c ≠ '0' then .again (c.toNat - '0'.toNat) else .char c

/-- The mark at the front of a text that joins or closes expressions: its sign, and its length. -/
def markAt (isExtended : Bool) (s : List Char) : Option (Char × Nat) :=
  if isExtended then
    match s with
    | c :: _ => if "()|*+?\x7b".toList.contains c then some (c, 1) else none
    | [] => none
  else
    match s with
    | '\\' :: c :: _ => if "()|+?\x7b".toList.contains c then some (c, 2) else none
    | '*' :: _ => some ('*', 1)
    | _ => none

def endsHere (isExtended : Bool) (s : List Char) : Bool :=
  match markAt isExtended s with
  | some (c, _) => c = '|' || c = ')'
  | none => s.isEmpty

mutual

def alternatives (isExtended : Bool) : Nat → Reader Regex
  | 0 => return .empty
  | fuel + 1 => do
    let a ← sequence isExtended true .empty fuel
    match markAt isExtended (← get).rest with
    | some ('|', n) =>
      drop n
      return .either a (← alternatives isExtended fuel)
    | _ => return a

/-- Reads expressions one behind the other. -/
def sequence (isExtended isFirst : Bool) (done : Regex) : Nat → Reader Regex
  | 0 => return done
  | fuel + 1 => do
    let s := (← get).rest
    if endsHere isExtended s then
      -- A parenthesis that closes nothing stands for itself.
      return done
    else
      let one ← single isExtended isFirst fuel
      let isAnchor : Bool := match one with | .lineStart => true | _ => false
      let one ← if isAnchor && !isExtended then pure one else repeated isExtended one fuel
      let isStillFirst := isFirst && isAnchor && !isExtended
      sequence isExtended isStillFirst (match done with | .empty => one | _ => .both done one) fuel

/-- Reads an expression that is neither a sequence nor repeated. -/
def single (isExtended isFirst : Bool) : Nat → Reader Regex
  | 0 => return .empty
  | fuel + 1 => do
    let s := (← get).rest
    match markAt isExtended s, s with
    | some ('(', n), _ =>
      drop n
      modify fun s => { s with groups := s.groups + 1 }
      let number := (← get).groups
      let inner ← alternatives isExtended fuel
      match markAt isExtended (← get).rest with
      | some (')', n) =>
        drop n
        return .group number inner
      | _ => throw (if isExtended then "Unmatched ( or \\(" else "Unmatched ( or \\(")
    | some (c, n), _ =>
      if isFirst then
        drop n
        return .char c
      else
        drop n
        throw "Invalid preceding regular expression"
    | none, c :: rest =>
      drop 1
      if c = '.' then return .anyChar
      else if c = '[' then
        match bracketAt rest with
        | some (r, rest) =>
          modify fun s => { s with rest }
          return r
        | none => throw "Unmatched [, [^, [:, [., or [="
      else if c = '^' && (isExtended || isFirst) then return .lineStart
      else if c = '$' && (isExtended || endsHere isExtended rest) then return .lineEnd
      else if c = '\\' then
        match rest with
        | e :: _ =>
          drop 1
          return escaped e
        | [] => throw "Trailing backslash"
      else return .char c
    | none, [] => return .empty

/-- Reads counts behind an expression. -/
def repeated (isExtended : Bool) (r : Regex) : Nat → Reader Regex
  | 0 => return r
  | fuel + 1 => do
    let s := (← get).rest
    match markAt isExtended s with
    | some ('*', n) =>
      drop n
      repeated isExtended (.many r 0 none) fuel
    | some ('+', n) =>
      drop n
      repeated isExtended (.many r 1 none) fuel
    | some ('?', n) =>
      drop n
      repeated isExtended (.many r 0 (some 1)) fuel
    | some ('\x7b', n) =>
      match countsAt (if isExtended then ['\x7d'] else ['\\', '\x7d']) (s.drop n) with
      | some (least, most, rest) =>
        modify fun s => { s with rest }
        repeated isExtended (.many r least most) fuel
      | none =>
        if isExtended then
          drop n
          return .both r (.char '\x7b')
        else throw "Invalid content of \\\x7b\\\x7d"
    | _ => return r

end

def read (isExtended : Bool) (text : String) : Except String Regex := do
  let (r, s) ← (alternatives isExtended (4 * text.length + 8)).run { rest := text.toList }
  if s.rest.isEmpty then return r else throw "Unmatched ) or \\)"

/-! ### Matching -/

/-- A place in a text: what stands before it, reversed, and behind it; the texts of groups so far, and where those
that are not closed yet were opened. -/
structure Place where
  before : List Char
  after : List Char
  /-- How far it is from the start of the text. -/
  offset : Nat := 0
  groups : List (Nat × List Char) := []
  opened : List (Nat × List Char) := []
  deriving Repr

/-- Goes behind some characters. -/
def Place.skip (p : Place) (n : Nat) : Place :=
  let passed := p.after.take n
  { p with before := passed.reverse ++ p.before, after := p.after.drop n, offset := p.offset + passed.length }

def Place.openGroup (p : Place) : Place := { p with opened := (p.offset, p.after) :: p.opened }

def Place.closeGroup (number : Nat) (p : Place) : Place :=
  match p.opened with
  | (start, after) :: opened =>
    { p with groups := (number, after.take (p.offset - start)) :: p.groups.filter (·.1 ≠ number), opened }
  | [] => p

def isWordChar (c : Char) : Bool := Pattern.inRanges wordRanges c

/-- Whether two characters are the same, or differ only in case where that does not count. -/
def same (anyCase : Bool) (a b : Char) : Bool := a = b || (anyCase && a.toLower = b.toLower)

/-- What counts when an expression is matched: whether case does not, and whether the texts of groups do, because
some group stands for its text again. -/
structure Manner where
  anyCase : Bool
  byGroups : Bool

/-- Whether nothing that counts tells two places apart. -/
def Manner.alike (m : Manner) (p q : Place) : Bool :=
  p.offset = q.offset && (!m.byGroups || (p.groups = q.groups && p.opened.map Prod.fst = q.opened.map Prod.fst))

/-- Of neighbours that are alike only the first; those that were kept already come last first. -/
def Manner.thinned (m : Manner) (kept : List Place) : List Place → List Place
  | [] => kept.reverse
  | p :: rest => m.thinned (if kept.head?.any (m.alike p) then kept else p :: kept) rest

/-- The places in a list that differ, the farther ones first; of places that are alike the first one stays. -/
def Manner.distinct (m : Manner) (places : List Place) : List Place :=
  m.thinned [] (places.mergeSort fun p q => q.offset ≤ p.offset)

def times (step : List Place → List Place) : Nat → List Place → List Place
  | 0, places => places
  | n + 1, places => if places.isEmpty then [] else times step n (step places)

/-- Goes on from places as long as new ones are found, at most `most` times if that is given. -/
def Manner.spread (m : Manner) (step : List Place → List Place) (most : Option Nat) (found : List Place)
    (seen : Std.HashSet Nat) : Nat → List Place → List Place
  | 0, _ => found
  | fuel + 1, front =>
    if front.isEmpty || most = some 0 then found
    else
      let isNew (p : Place) : Bool := if m.byGroups then !found.any (m.alike p) else !seen.contains p.offset
      let next := (step front).filter isNew
      m.spread step (most.map (· - 1)) (next.reverse ++ found) (next.foldl (fun seen p => seen.insert p.offset) seen) fuel
        next

/-- The places behind what an expression stands for, from each of some places on. -/
def ends (m : Manner) : Regex → List Place → List Place
  | .empty, places => places
  | .char c, places =>
    places.filterMap fun p => match p.after with
      | d :: _ => if same m.anyCase c d then some (p.skip 1) else none
      | [] => none
  | .anyChar, places => places.filterMap fun p => if p.after.isEmpty then none else some (p.skip 1)
  | .oneOf isNegated ranges, places =>
    places.filterMap fun p => match p.after with
      | d :: _ =>
        let fits := Pattern.inRanges ranges d
          || (m.anyCase && (Pattern.inRanges ranges d.toLower || Pattern.inRanges ranges d.toUpper))
        if fits != isNegated then some (p.skip 1) else none
      | [] => none
  | .lineStart, places => places.filter (·.before.isEmpty)
  | .lineEnd, places => places.filter (·.after.isEmpty)
  | .wordEdge atStart atEnd, places =>
    places.filter fun p =>
      let before := p.before.head?.any isWordChar
      let after := p.after.head?.any isWordChar
      (atStart && !before && after) || (atEnd && before && !after)
  | .wordInside, places => places.filter fun p => p.before.head?.any isWordChar = p.after.head?.any isWordChar
  | .group n r, places => (ends m r (places.map Place.openGroup)).map (Place.closeGroup n)
  | .again n, places =>
    places.filterMap fun p =>
      (p.groups.lookup n).bind fun text =>
        let here := p.after.take text.length
        if here.length = text.length && (here.zip text).all fun (a, b) => same m.anyCase a b then
          some (p.skip text.length)
        else none
  | .both a b, places => m.distinct (ends m b (ends m a places))
  | .either a b, places => m.distinct (ends m a places ++ ends m b places)
  | .many r least most, places =>
    let first := times (ends m r) least places
    let room := (first.map (·.after.length)).foldl max 0
    let seen := Std.HashSet.ofList (first.map (·.offset))
    m.distinct (m.spread (ends m r) (most.map (· - least)) first.reverse seen (room + 2) first)

def hasAgain : Regex → Bool
  | .again _ => true
  | .group _ r | .many r _ _ => r.hasAgain
  | .both a b | .either a b => a.hasAgain || b.hasAgain
  | _ => false

def matchAt? (anyCase : Bool) (r : Regex) (p : Place) : Option Place :=
  (ends ⟨anyCase, r.hasAgain⟩ r [{ p with groups := [], opened := [] }]).foldl (fun best q =>
    match best with
    | some b => if b.offset < q.offset then some q else best
    | none => some q) none

/-- A place and those behind it, the nearest first. -/
def placesFrom (p : Place) : List Place :=
  match _h : p.after with
  | [] => [p]
  | _ :: _ => p :: placesFrom (p.skip 1)
  termination_by p.after.length
  decreasing_by simp_all [Place.skip]

/-- How many places are tried before it is made sure that there is a match at all. -/
def trialCount : Nat := 24

/-- The first match at one of some places: where it starts and ends. From the place on where `trials` is used up it is
first made sure that one of the places has a match. -/
def searchIn (anyCase : Bool) (r : Regex) (trials : Nat) : List Place → Option (Place × Place)
  | [] => none
  | p :: rest =>
    if trials = 1 && (ends ⟨anyCase, r.hasAgain⟩ r (p :: rest)).isEmpty then none
    else
      match matchAt? anyCase r p with
      | some q => some (p, q)
      | none => searchIn anyCase r (trials - 1) rest

/-- The first match at a place or behind it: where it starts and ends. -/
def search? (anyCase : Bool) (r : Regex) (p : Place) : Option (Place × Place) :=
  match matchAt? anyCase r p with
  | some q => some (p, q)
  | none => searchIn anyCase r trialCount ((placesFrom p).drop 1)

/-- The first match in a text. -/
def find? (anyCase : Bool) (r : Regex) (s : String) : Option (Place × Place) :=
  search? anyCase r { before := [], after := s.toList }

end Regex

end Stemcell.Rehearsal.Machine
