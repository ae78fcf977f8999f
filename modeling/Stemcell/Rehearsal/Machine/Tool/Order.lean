import Stemcell.Rehearsal.Machine.Tool.Lines
/-!
Tools that bring lines into an order and look for equal ones.
-/
namespace Stemcell.Rehearsal.Machine.Tool

open Failure (SystemCode)

/-- How lines or parts of them are compared. -/
structure Comparison where
  isNumeric : Bool := false
  isReversed : Bool := false
  anyCase : Bool := false
  skipsBlanks : Bool := false
  /-- Only letters, digits and blanks count. -/
  isPlain : Bool := false
  isVersion : Bool := false
  isHuman : Bool := false
  isGeneral : Bool := false
  /-- The names of months count. -/
  isMonthly : Bool := false
  deriving Repr

/-- The part of a line by which it is compared. -/
structure Key where
  first : Nat × Nat
  /-- The last field and the last character in it; zero stands for the end of the field. -/
  last : Option (Nat × Nat)
  comparison : Comparison
  hasOwn : Bool

namespace Comparison

def add (c : Comparison) (letter : Char) : Comparison :=
  match letter with
  | 'n' => { c with isNumeric := true }
  | 'r' => { c with isReversed := true }
  | 'f' => { c with anyCase := true }
  | 'b' => { c with skipsBlanks := true }
  | 'd' => { c with isPlain := true }
  | 'V' => { c with isVersion := true }
  | 'h' => { c with isHuman := true }
  | 'g' => { c with isGeneral := true }
  | 'M' => { c with isMonthly := true }
  | _ => c

/-- The whole and the fractional digits of a number in front of a text, and its sign. -/
def numberOf (s : List Char) : Bool × Nat × List Char × List Char :=
  let s := s.dropWhile fun c => c = ' ' || c = '\t'
  let (isNegative, s) := match s with | '-' :: rest => (true, rest) | _ => (false, s)
  let whole := s.takeWhile Char.isDigit
  let behind := s.drop whole.length
  let fraction := match behind with | '.' :: rest => rest.takeWhile Char.isDigit | _ => []
  let rest := if fraction.isEmpty then behind else behind.drop (fraction.length + 1)
  (isNegative, Expression.ofDigits 10 whole, fraction, rest)

/-- A number as a whole number of small parts. -/
def scaled (s : List Char) : Int :=
  let places := 30
  let (isNegative, whole, fraction, _) := numberOf s
  let fraction := fraction.take places
  let size := whole * Nat.pow 10 places + Expression.ofDigits 10 fraction * Nat.pow 10 (places - fraction.length)
  if isNegative then -(size : Int) else size

/-- The rank of the unit behind a number, and the number. -/
def humanOf (s : List Char) : Int × Int :=
  let n := scaled s
  let (_, _, _, rest) := numberOf s
  let rank := match rest with | u :: _ => ("KMGTPEZY".toList.idxOf (if u = 'k' then 'K' else u) + 1) % 9 | [] => 0
  (if n < 0 then -(rank : Int) else if n = 0 then 0 else rank, n)

/-- A number with a fraction; what is none comes first. -/
def generalOf (s : List Char) : Int :=
  match Format.realAt s with
  | some (.finite isNegative num den, _) =>
    let size := num * Nat.pow 10 30 / den
    if isNegative then -(size : Int) else size
  | some (.infinite isNegative, _) => if isNegative then -(Nat.pow 10 6000 : Int) else Nat.pow 10 6000
  | _ => -(Nat.pow 10 7000 : Int)

/-- The number of the month that a text starts with, or zero. -/
def monthOf (s : List Char) : Int :=
  let names := ["jan", "feb", "mar", "apr", "may", "jun", "jul", "aug", "sep", "oct", "nov", "dec"]
  let name := String.ofList (((s.dropWhile fun c => c = ' ' || c = '\t').take 3).map Char.toLower)
  if names.contains name then names.idxOf name + 1 else 0

def ofInts (a b : Int) : Ordering := if a < b then .lt else if b < a then .gt else .eq

def ofBytes : List Char → List Char → Ordering
  | [], [] => .eq
  | [], _ => .lt
  | _, [] => .gt
  | a :: as, b :: bs => if a < b then .lt else if b < a then .gt else ofBytes as bs

/-- The runs of digits and of other characters in a text. -/
def runs : Nat → List Char → List (List Char)
  | 0, _ => []
  | fuel + 1, s =>
    match s with
    | [] => []
    | c :: _ =>
      let run := s.takeWhile fun d => d.isDigit = c.isDigit
      run :: runs fuel (s.drop run.length)

/-- The order of two texts in which runs of digits are numbers. -/
def ofRuns : List (List Char) → List (List Char) → Ordering
  | [], [] => .eq
  | [], _ => .lt
  | _, [] => .gt
  | a :: as, b :: bs =>
    let areNumbers := (a.head?.any Char.isDigit) && (b.head?.any Char.isDigit)
    let here := if areNumbers then ofInts (Expression.ofDigits 10 a) (Expression.ofDigits 10 b) else ofBytes a b
    if here = .eq then ofRuns as bs else here

/-- The order of two texts, before it may be reversed. -/
def plain (c : Comparison) (a b : List Char) : Ordering :=
  if c.isNumeric then ofInts (scaled a) (scaled b)
  else if c.isHuman then
    let (ra, na) := humanOf a
    let (rb, nb) := humanOf b
    if ra = rb then ofInts na nb else ofInts ra rb
  else if c.isGeneral then ofInts (generalOf a) (generalOf b)
  else if c.isMonthly then ofInts (monthOf a) (monthOf b)
  else
    let keep (s : List Char) : List Char :=
      let s := if c.skipsBlanks then s.dropWhile fun d => d = ' ' || d = '\t' else s
      let s := if c.isPlain then s.filter fun d => d.isAlphanum || d = ' ' || d = '\t' else s
      if c.anyCase then s.map Char.toUpper else s
    let a := keep a
    let b := keep b
    if c.isVersion then ofRuns (runs (a.length + 1) a) (runs (b.length + 1) b) else ofBytes a b

def compare (c : Comparison) (a b : List Char) : Ordering :=
  if c.isReversed then (plain c a b).swap else plain c a b

end Comparison

/-- The fields of a line: between marks, or each with the blanks in front of it. -/
def fieldsOf (mark : Option Char) (line : List Char) : List (List Char) :=
  match mark with
  | some mark => Text.splitChar mark line
  | none =>
    let isBlank (c : Char) : Bool := c = ' ' || c = '\t'
    let rec go (fuel : Nat) (s : List Char) : List (List Char) :=
      match fuel, s with
      | 0, _ | _, [] => []
      | fuel + 1, s =>
        let blanks := s.takeWhile isBlank
        let word := (s.drop blanks.length).takeWhile (!isBlank ·)
        (blanks ++ word) :: go fuel (s.drop (blanks.length + word.length))
    go (line.length + 1) line

def Key.part (key : Key) (mark : Option Char) (line : String) : List Char :=
  let fields := fieldsOf mark line.toList
  let between : List Char := mark.toList
  let (first, start) := key.first
  let others := fields.drop (first - 1)
  let trim (s : List Char) : List Char :=
    if key.comparison.skipsBlanks then s.dropWhile fun c => c = ' ' || c = '\t' else s
  let whole (fs : List (List Char)) : List Char := between.intercalate fs
  match key.last with
  | none => (trim (whole others)).drop (start - 1)
  | some (last, stop) =>
    if last < first then []
    else
      let kept := others.take (last + 1 - first)
      let kept :=
        if stop = 0 then kept
        else if first = last then kept.map fun f => f.take stop
        else kept.dropLast ++ (kept.getLast?.map (List.take stop)).toList
      (trim (whole kept)).drop (start - 1)

/-- A field and a character in it, and the letters behind them. -/
def keyPlace? (s : String) : Option ((Nat × Nat) × List Char) :=
  let chars := s.toList
  let digits := chars.takeWhile Char.isDigit
  (decimal? (String.ofList digits)).bind fun field =>
    if field = 0 then none
    else match chars.drop digits.length with
    | '.' :: rest =>
      let more := rest.takeWhile Char.isDigit
      (decimal? (String.ofList more)).map fun c => ((field, c), rest.drop more.length)
    | rest => some ((field, 0), rest)

def keyOf? (usual : Comparison) (s : String) : Option Key :=
  let letters (first last : List Char) : Comparison :=
    if (first ++ last).isEmpty then usual else (first ++ last).foldl Comparison.add {}
  match Text.split ',' s with
  | [first] =>
    (keyPlace? first).map fun (place, more) => ⟨(place.1, max 1 place.2), none, letters more [], !more.isEmpty⟩
  | [first, last] =>
    (keyPlace? first).bind fun (place, more) => (keyPlace? last).map fun (goal, others) =>
      ⟨(place.1, max 1 place.2), some goal, letters more others, !(more ++ others).isEmpty⟩
  | _ => none

/-- Sorts lines. -/
def sort (call : Call) : ToolResult :=
  let known : List Choice :=
    [⟨'b', "ignore-leading-blanks", false⟩, ⟨'d', "dictionary-order", false⟩, ⟨'f', "ignore-case", false⟩,
      ⟨'g', "general-numeric-sort", false⟩, ⟨'h', "human-numeric-sort", false⟩, ⟨'n', "numeric-sort", false⟩,
      ⟨'M', "month-sort", false⟩, ⟨'R', "random-sort", false⟩, ⟨'S', "random-source", true⟩,
      ⟨'r', "reverse", false⟩, ⟨'V', "version-sort", false⟩, ⟨'c', "check", false⟩, ⟨'C', "", false⟩,
      ⟨'k', "key", true⟩, ⟨'m', "merge", false⟩, ⟨'o', "output", true⟩, ⟨'s', "stable", false⟩,
      ⟨'t', "field-separator", true⟩, ⟨'u', "unique", false⟩, ⟨'z', "zero-terminated", false⟩, ⟨'i', "", false⟩]
  match Choices.read known false call.arguments with
  | .error message => call.usage message 2
  | .ok c =>
    let usual := c.options.foldl (fun k o => k.add o.1) {}
    let given := (c.options.filter (·.1 = 'k')).map Prod.snd
    let mark := (c.value? 't').map fun s => if s = "\\0" then '\x00' else s.toList.headD '\t'
    match given.find? fun s => (keyOf? usual s).isNone with
    | some wrong =>
      if wrong.startsWith "0" then call.refuse s!"field number is zero: invalid field specification {quotation wrong}" 2
      else call.refuse s!"invalid number at field start: invalid count at start of {quotation wrong}" 2
    | none =>
      let keys := given.filterMap (keyOf? usual)
      let byKeys (a b : String) : Ordering :=
        if keys.isEmpty then usual.compare a.toList b.toList
        else
          keys.foldl (fun order key =>
            if order = .eq then key.comparison.compare (key.part mark a) (key.part mark b) else order) .eq
      let isLoose := c.has 's' || c.has 'u'
      let compare (a b : String) : Ordering :=
        let order := byKeys a b
        if order = .eq && !isLoose then
          let bytes := Comparison.ofBytes a.toList b.toList
          if usual.isReversed then bytes.swap else bytes
        else order
      let failed (path : String) (code : SystemCode) : String :=
        let verb := if code = .isDirectory then "read failed" else "cannot read"
        s!"{call.name}: {verb}: {shownName path}: {code.words}"
      let (texts, messages) := call.sources failed c.rest
      if !messages.isEmpty then .refusal 2 (messages.headD "")
      else
        let lines := texts.flatMap fun t => linesOf (if c.has 'z' then exchanged t.2 else t.2)
        let takesInput := c.rest.isEmpty || c.rest.contains "-"
        if c.has 'c' || c.has 'C' then
          let wrong := (lines.zip (lines.drop 1)).zipIdx.find? fun ((a, b), _) =>
            compare a b = .gt || (c.has 'u' && compare a b = .eq)
          match wrong with
          | none => { takesInput }
          | some ((_, b), place) =>
            let path := c.rest.headD "-"
            if c.has 'C' then { status := 1, takesInput }
            else { call.refuse s!"{path}:{place + 2}: disorder: {b}" with takesInput }
        else
          let sorted := lines.mergeSort fun a b => compare a b ≠ .gt
          let rec distinct : List String → List String
            | a :: b :: rest => if compare a b = .eq then distinct (a :: rest) else a :: distinct (b :: rest)
            | rest => rest
            termination_by lines => lines.length
          let text := ofLines (if c.has 'u' then distinct sorted else sorted)
          let text := if c.has 'z' then exchanged text else text
          match c.value? 'o' with
          | none => { ToolResult.ofText text with takesInput }
          | some path =>
            match Disk.target call.files (readable path) FileNode.linkLimit with
            | .ok way => { files := some (Disk.put call.files way (.file (bytesOf text))), takesInput }
            | .error code => call.refuse s!"open failed: {shownName path}: {code.words}" 2

/-- Groups of lines that follow one another and are the same in what counts. -/
def groups (same : String → String → Bool) : List String → List (List String)
  | [] => []
  | line :: rest =>
    match groups same rest with
    | (next :: more) :: others =>
      if same line next then (line :: next :: more) :: others else [line] :: (next :: more) :: others
    | others => [line] :: others

/-- Shows one of several equal lines that follow one another. -/
def uniq (call : Call) : ToolResult :=
  let known : List Choice :=
    [⟨'c', "count", false⟩, ⟨'d', "repeated", false⟩, ⟨'D', "all-repeated", false⟩, ⟨'u', "unique", false⟩,
      ⟨'i', "ignore-case", false⟩, ⟨'f', "skip-fields", true⟩, ⟨'s', "skip-chars", true⟩, ⟨'w', "check-chars", true⟩,
      ⟨'z', "zero-terminated", false⟩]
  call.choosing known fun c =>
    let count (letter : Char) : Nat := ((c.value? letter).bind decimal?).getD 0
    let keyOf (line : String) : List Char :=
      let behind := (fieldsOf none line.toList).drop (count 'f')
      let s := if count 'f' = 0 then line.toList else behind.flatten
      let s := s.drop (count 's')
      let s := match (c.value? 'w').bind decimal? with | some n => s.take n | none => s
      if c.has 'i' then s.map Char.toLower else s
    let failed (path : String) (code : SystemCode) : String :=
      if code = .isDirectory then s!"{call.name}: error reading {quotedName path}" else call.usual path code
    match c.rest with
    | _ :: _ :: extra :: _ => call.usage s!"extra operand {quotation extra}"
    | paths =>
      let act (text : String) : String := c.byRecord (fun text =>
        let found := groups (fun a b => keyOf a = keyOf b) (linesOf text)
        let found := found.filter fun g =>
          let isRepeated := 1 < g.length
          (!c.has 'd' || isRepeated) && (!c.has 'u' || !isRepeated) && (!c.has 'D' || isRepeated)
        ofLines (found.flatMap fun g =>
          if c.has 'D' then g
          else
            let line := g.headD ""
            [if c.has 'c' then padded 7 g.length ++ " " ++ line else line])) text
      match paths with
      | [input, output] =>
        match call.read input, Disk.target call.files (readable output) FileNode.linkLimit with
        | .ok text, .ok way => { files := some (Disk.put call.files way (.file (bytesOf (act text)))) }
        | .error code, _ => .refusal 1 (failed input code)
        | _, .error code => .refusal 1 (call.usual output code)
      | paths =>
        let (texts, messages) := call.sources failed paths
        if messages.isEmpty then
          { ToolResult.ofText (act (String.join (texts.map Prod.snd))) with
            takesInput := paths.isEmpty || paths.contains "-" }
        else .refusal 1 (messages.headD "")

end Stemcell.Rehearsal.Machine.Tool
