import Stemcell.Rehearsal.Machine.Pattern
import Stemcell.Rehearsal.Machine.Tool.Lines
import Stemcell.Text.Base64
/-!
Tools that work on single bytes: they replace them, or show them as numbers or in an alphabet of 64 characters.
-/
namespace Stemcell.Rehearsal.Machine.Tool

open Failure (SystemCode)

/-! ### Sets of characters -/

inductive SetPart where
  | chars (s : List Char)
  /-- A character as often as is needed for the length of the other set. -/
  | fill (c : Char)

/-- The character at the front of a set, which may be escaped, and what is left. -/
def setChar (s : List Char) : Option (Char × List Char) :=
  match s with
  | [] => none
  | '\\' :: c :: rest =>
    match Format.control? c with
    | some e => some (e, rest)
    | none => if Format.isOctal c then some (Format.code 8 3 (c :: rest)) else some (c, rest)
  | c :: rest => some (c, rest)

def classChars (name : String) : List Char :=
  ((List.range 256).map Char.ofNat).filter (Pattern.inRanges (Pattern.classRanges name))

/-- The class, or the character and its count, that brackets at the front of a set hold, and what is left. -/
def setBracket (s : List Char) : Option (SetPart × List Char) :=
  match s with
  | '[' :: ':' :: rest =>
    let name := rest.takeWhile Char.isAlpha
    match rest.drop name.length with
    | ':' :: ']' :: rest =>
      let chars := classChars (String.ofList name)
      if chars.isEmpty then none else some (.chars chars, rest)
    | _ => none
  | '[' :: '=' :: c :: '=' :: ']' :: rest => some (.chars [c], rest)
  | '[' :: more =>
    (setChar more).bind fun (c, rest) =>
      match rest with
      | '*' :: rest =>
        let digits := rest.takeWhile Char.isDigit
        match rest.drop digits.length with
        | ']' :: rest =>
          let base := if digits.head? = some '0' then 8 else 10
          let n := Expression.ofDigits base digits
          some (if n = 0 then .fill c else .chars (List.replicate n c), rest)
        | _ => none
      | _ => none
  | _ => none

/-- The parts of a set, or a range in it that ends before it starts. -/
def setParts : Nat → List Char → Except String (List SetPart)
  | 0, _ => .ok []
  | fuel + 1, s => do
    match setBracket s with
    | some (part, rest) => return part :: (← setParts fuel rest)
    | none =>
      match setChar s with
      | none => return []
      | some (a, rest) =>
        match rest with
        | '-' :: more =>
          match setChar more with
          | none => return .chars [a] :: (← setParts fuel rest)
          | some (b, rest) =>
            if b < a then
              let range := String.ofList [a, '-', b]
              throw s!"range-endpoints of {quotation range} are in reverse collating sequence order"
            else
              let chars := (List.range (b.toNat + 1 - a.toNat)).map fun k => Char.ofNat (a.toNat + k)
              return .chars chars :: (← setParts fuel rest)
        | _ => return .chars [a] :: (← setParts fuel rest)

def expanded (length : Nat) (parts : List SetPart) : List Char :=
  let known := (parts.map fun p => match p with | .chars s => s.length | .fill _ => 0).foldl (· + ·) 0
  parts.flatMap fun p => match p with | .chars s => s | .fill c => List.replicate (length - known) c

/-- A text without all but the first of equal characters of a set that follow one another. -/
def squeeze (set : List Char) : List Char → List Char
  | a :: b :: rest => if a = b && set.contains a then squeeze set (b :: rest) else a :: squeeze set (b :: rest)
  | s => s

/-- Replaces characters, takes them away, or leaves out repeated ones. -/
def tr (call : Call) : ToolResult :=
  let known : List Choice :=
    [⟨'c', "complement", false⟩, ⟨'C', "", false⟩, ⟨'d', "delete", false⟩, ⟨'s', "squeeze-repeats", false⟩,
      ⟨'t', "truncate-set1", false⟩]
  call.choosingFirst known fun c =>
    let deletes := c.has 'd'
    let squeezes := c.has 's'
    let least := if deletes = squeezes then 2 else 1
    let most := if deletes && !squeezes then 1 else 2
    let last := c.rest.getLastD ""
    if c.rest.isEmpty then call.usage "missing operand"
    else if c.rest.length < least then
      let reason := if squeezes then "Two strings must be given when both deleting and squeezing repeats."
        else "Two strings must be given when translating."
      call.usage s!"missing operand after {quotation last}\n{reason}"
    else if most < c.rest.length then
      let extra := c.rest.getD most ""
      let reason := if most = 1 then "\nOnly one string may be given when deleting without squeezing repeats." else ""
      call.usage s!"extra operand {quotation extra}{reason}"
    else
      match setParts (c.rest.headD "").length (c.rest.headD "").toList,
        setParts (c.rest.getD 1 "").length (c.rest.getD 1 "").toList with
      | .error message, _ | _, .error message => call.refuse message
      | .ok first, .ok second =>
        let listed := expanded 0 first
        let set := if c.has 'c' || c.has 'C' then ((List.range 256).map Char.ofNat).filter (!listed.contains ·) else listed
        let goal := expanded set.length second
        let text := call.input.toList
        let result : List Char :=
          if deletes then
            let kept := text.filter (!set.contains ·)
            if squeezes then squeeze goal kept else kept
          else if c.rest.length = 1 then squeeze set text
          else
            let set := if c.has 't' then set.take goal.length else set
            let pairs := set.zipIdx.map fun (a, k) => (a, (goal[k]?).or goal.getLast?)
            let turned := text.map fun a => ((pairs.reverse.lookup a).bind id).getD a
            if squeezes then squeeze goal turned else turned
        if !deletes && c.rest.length = 2 && goal.isEmpty && !set.isEmpty then
          call.refuse "when not truncating set1, string2 must be non-empty"
        else { ToolResult.ofText (String.ofList result) with takesInput := true }

/-! ### Numbers of bytes -/

/-- How bytes are shown: how many make a piece, and how wide a piece is. -/
structure Shape where
  size : Nat
  width : Nat
  text : List Nat → String

/-- Digits in a field that is filled with zeros. -/
def zeroPadded (base width n : Nat) : String :=
  let digits := Nat.toDigits base n
  String.ofList (List.replicate (width - digits.length) '0' ++ digits)

/-- The number that bytes make, the least of them first. -/
def littleEndian (bytes : List Nat) : Nat := bytes.foldr (fun b n => n * 256 + b) 0

def characterText (n : Nat) : String :=
  match n with
  | 0 => "\\0"
  | 7 => "\\a"
  | 8 => "\\b"
  | 9 => "\\t"
  | 10 => "\\n"
  | 11 => "\\v"
  | 12 => "\\f"
  | 13 => "\\r"
  | _ => if 32 ≤ n && n < 127 then String.singleton (Char.ofNat n) else zeroPadded 8 3 n

/-- The names of the characters that are not printed. -/
def controlNames : List String :=
  ["nul", "soh", "stx", "etx", "eot", "enq", "ack", "bel", "bs", "ht", "nl", "vt", "ff", "cr", "so", "si", "dle", "dc1",
    "dc2", "dc3", "dc4", "nak", "syn", "etb", "can", "em", "sub", "esc", "fs", "gs", "rs", "us", "sp"]

/-- The shape that a type of output names. -/
def shapeOf? (s : String) : Option Shape :=
  let number (base size width : Nat) (fills : Bool) : Shape :=
    ⟨size, width, fun bytes =>
      let n := littleEndian bytes
      if fills then zeroPadded base width n else String.ofList (Nat.toDigits base n)⟩
  let hexWidth (size : Nat) : Nat := 2 * size
  let octalWidth (size : Nat) : Nat := (8 * size + 2) / 3
  let decimalWidth (size : Nat) : Nat := if size = 1 then 3 else if size = 2 then 5 else if size = 4 then 10 else 20
  let signed (size : Nat) : Shape :=
    ⟨size, decimalWidth size + 1, fun bytes => toString ((littleEndian bytes : Int).bmod (Nat.pow 256 size))⟩
  let sizeOf (rest : List Char) : Nat :=
    match rest with
    | ['C'] => 1
    | ['S'] => 2
    | [] | ['I'] => 4
    | ['L'] => 8
    | _ => Expression.ofDigits 10 rest
  match s.toList with
  | ['c'] => some ⟨1, 3, fun bytes => characterText (bytes.headD 0)⟩
  | ['a'] => some ⟨1, 3, fun bytes =>
      let n := bytes.headD 0 % 128
      if n = 127 then "del" else controlNames.getD n (String.singleton (Char.ofNat n))⟩
  | 'x' :: rest => some (number 16 (sizeOf rest) (hexWidth (sizeOf rest)) true)
  | 'o' :: rest => some (number 8 (sizeOf rest) (octalWidth (sizeOf rest)) true)
  | 'u' :: rest => some (number 10 (sizeOf rest) (decimalWidth (sizeOf rest)) false)
  | 'd' :: rest => some (signed (sizeOf rest))
  | _ => none

/-- Groups of so many elements. -/
def rows {α : Type} (size : Nat) : Nat → List α → List (List α)
  | 0, _ => []
  | fuel + 1, xs => if xs.isEmpty then [] else xs.take size :: rows size fuel (xs.drop size)

/-- Rows of which those that repeat the row before are replaced by one mark. -/
def withStars (isMarked : Bool) (before : Option (List Nat)) : List (Nat × List Nat) → List (Option (Nat × List Nat))
  | [] => []
  | row :: rest =>
    if before = some row.2 && !rest.isEmpty then
      if isMarked then withStars true before rest else none :: withStars true before rest
    else some row :: withStars false (some row.2) rest

/-- Shows bytes as numbers. -/
def od (call : Call) : ToolResult :=
  let known : List Choice :=
    [⟨'A', "address-radix", true⟩, ⟨'t', "format", true⟩, ⟨'N', "read-bytes", true⟩, ⟨'j', "skip-bytes", true⟩,
      ⟨'v', "output-duplicates", false⟩, ⟨'w', "width", true⟩, ⟨'b', "", false⟩, ⟨'c', "", false⟩, ⟨'d', "", false⟩,
      ⟨'o', "", false⟩, ⟨'x', "", false⟩, ⟨'a', "", false⟩, ⟨'i', "", false⟩]
  call.choosing known fun c =>
    let asked := c.options.flatMap fun (letter, value) =>
      match letter with
      | 't' => [value]
      | 'b' => ["o1"]
      | 'c' => ["c"]
      | 'a' => ["a"]
      | 'd' => ["u2"]
      | 'o' => ["o2"]
      | 'x' => ["x2"]
      | 'i' => ["d4"]
      | _ => []
    let shapes := (if asked.isEmpty then ["o2"] else asked).filterMap shapeOf?
    let count (letter : Char) : Option Nat := (c.value? letter).bind decimal?
    call.withText c.rest fun text =>
      let bytes := ((text.toList.map Char.toNat).drop ((count 'j').getD 0))
      let bytes := match count 'N' with | some n => bytes.take n | none => bytes
      let width := (count 'w').getD 16
      let base := (c.value? 'A').getD "o"
      let address (n : Nat) : String :=
        if base = "n" then ""
        else if base = "d" then zeroPadded 10 7 n
        else if base = "x" then zeroPadded 16 6 n
        else zeroPadded 8 7 n
      let found := rows width (bytes.length + 1) bytes
      let placed := found.zipIdx.map fun (row, k) => (k * width, row)
      -- Pieces of different shapes stand below one another in fields of one width.
      let blockWidth := (shapes.map fun s => (s.width + 1) * (width / max 1 s.size)).foldl max 0
      let lineOf (s : Shape) (row : List Nat) : String :=
        let pieces := rows s.size (row.length + 1) row
        let field := blockWidth / max 1 (width / max 1 s.size)
        String.join (pieces.map fun p =>
          let text := s.text p
          String.ofList (List.replicate (field - text.length) ' ') ++ text)
      let shown := if c.has 'v' then placed.map some else withStars false none placed
      let lines := shown.flatMap fun row? =>
        match row? with
        | none => ["*"]
        | some (place, row) =>
          shapes.zipIdx.map fun (s, k) =>
            let front := address place
            (if k = 0 then front else String.ofList (List.replicate front.length ' ')) ++ lineOf s row
      let last := if base = "n" then [] else [address bytes.length]
      let isAbsent := c.rest.any fun path => match call.read path with | .ok _ | .error .isDirectory => false | _ => true
      .ofLines (if text.isEmpty && isAbsent then [] else lines ++ last)

/-- Shows bytes in an alphabet of 64 characters, or reads them from it. -/
def base64 (call : Call) : ToolResult :=
  let known : List Choice :=
    [⟨'d', "decode", false⟩, ⟨'i', "ignore-garbage", false⟩, ⟨'w', "wrap", true⟩]
  call.choosing known fun c =>
    let failed (path : String) (code : SystemCode) : String :=
      if code = .isDirectory then s!"{call.name}: read error: {code.words}" else call.usual path code
    let (texts, messages) := call.sources failed c.rest
    if !messages.isEmpty then .refusal 1 (messages.headD "")
    else
      let text := String.join (texts.map Prod.snd)
      if c.has 'd' then
        let chars := text.toList.filter (· ≠ '\n')
        match Text.Base64.decode chars with
        | .ok data => .ofText (ofBytes data)
        | .error _ =>
          let whole := chars.takeWhile fun d => (Text.Base64.bits? d).isSome
          let excess := whole.length % 4
          let kept := if excess < 2 then whole.take (whole.length - excess) else whole ++ List.replicate (4 - excess) '='
          let data := match Text.Base64.decode kept with | .ok data => data | .error _ => []
          { status := 1, written := [(false, ofBytes data), (true, s!"{call.name}: invalid input\n")] }
      else
        let chars := Text.Base64.encode (bytesOf text)
        let width := ((c.value? 'w').bind decimal?).getD 76
        if width = 0 then .ofText (String.ofList chars)
        else .ofLines ((rows width (chars.length + 1) chars).map String.ofList)

end Stemcell.Rehearsal.Machine.Tool
