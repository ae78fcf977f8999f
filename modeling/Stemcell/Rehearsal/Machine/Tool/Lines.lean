import Stemcell.Rehearsal.Machine.Format
import Stemcell.Rehearsal.Machine.Tool
/-!
Tools that take texts apart into lines and fields: they show parts of them, number them, and put them side by side.
-/
namespace Stemcell.Rehearsal.Machine.Tool

open Failure (SystemCode)

/-- The lines of a text with their line ends, of which the last may have none. -/
def fullLines (s : String) : List String :=
  let lines := Text.split '\n' s
  let ended := lines.dropLast.map (· ++ "\n")
  match lines.getLast? with
  | some last => if last.isEmpty then ended else ended ++ [last]
  | none => ended

def bare (line : String) : String := if line.endsWith "\n" then (line.dropEnd 1).toString else line

def padded (width : Nat) (n : Nat) : String :=
  let digits := Nat.toDigits 10 n
  String.ofList (List.replicate (width - digits.length) ' ' ++ digits)

/-! ### Whole texts -/

def visible (showsTabs : Bool) (c : Char) : String :=
  let plain (n : Nat) : String :=
    if n < 32 then "^" ++ String.singleton (Char.ofNat (n + 64)) else if n = 127 then "^?" else String.singleton (Char.ofNat n)
  if c = '\t' then if showsTabs then "^I" else "\t"
  else if c = '\n' then "\n"
  else if c.toNat < 128 then plain c.toNat
  else "M-" ++ plain (c.toNat - 128)

def shownLine (c : Choices) (line : String) : String :=
  let showsTabs := c.has 'T' || c.has 'A' || c.has 't'
  let showsAll := c.has 'v' || c.has 'A' || c.has 'e' || c.has 't'
  let inner := bare line
  let inner :=
    if showsAll then String.join (inner.toList.map (visible showsTabs))
    else if showsTabs then String.join (inner.toList.map fun c => if c = '\t' then "^I" else String.singleton c)
    else inner
  let marksEnd := c.has 'E' || c.has 'A' || c.has 'e'
  if line.endsWith "\n" then inner ++ (if marksEnd then "$\n" else "\n") else inner

/-- Lines with numbers in front, but for the empty ones if they do not count. -/
def numbered (skipsEmpty : Bool) (n : Nat) : List String → List String
  | [] => []
  | line :: rest =>
    if skipsEmpty && (line = "\n" || line = "$\n") then line :: numbered skipsEmpty n rest
    else (padded 6 n ++ "\t" ++ line) :: numbered skipsEmpty (n + 1) rest

/-- Lines without all but the first of some empty ones. -/
def squeezed (afterEmpty : Bool) : List String → List String
  | [] => []
  | line :: rest =>
    if line = "\n" then if afterEmpty then squeezed true rest else line :: squeezed true rest
    else line :: squeezed false rest

/-- Writes files one after the other. -/
def cat (call : Call) : ToolResult :=
  let known : List Choice :=
    [⟨'A', "show-all", false⟩, ⟨'b', "number-nonblank", false⟩, ⟨'e', "", false⟩, ⟨'E', "show-ends", false⟩,
      ⟨'n', "number", false⟩, ⟨'s', "squeeze-blank", false⟩, ⟨'t', "", false⟩, ⟨'T', "show-tabs", false⟩,
      ⟨'u', "", false⟩, ⟨'v', "show-nonprinting", false⟩]
  call.choosing known fun c =>
    let render (text : String) : String :=
      if c.options.all (·.1 = 'u') then text
      else
        let lines := fullLines text
        let lines := if c.has 's' then squeezed false lines else lines
        let lines := lines.map (shownLine c)
        String.join (if c.has 'b' then numbered true 1 lines else if c.has 'n' then numbered false 1 lines else lines)
    if c.options.all (·.1 = 'u') then
      let pieces := (if c.rest.isEmpty then ["-"] else c.rest).map fun path =>
        match call.read path with
        | .ok text => (false, text)
        | .error code => (true, call.usual path code ++ "\n")
      { status := if pieces.any Prod.fst then 1 else 0, written := pieces,
        takesInput := c.rest.isEmpty || c.rest.contains "-" }
    else call.withText c.rest fun text => .ofText (render text)

/-- Writes files with their lines in reverse order. -/
def tac (call : Call) : ToolResult :=
  call.choosing [] fun c =>
    let failed (path : String) (code : SystemCode) : String :=
      s!"{call.name}: failed to open {quotedName path} for reading: {code.words}"
    let (texts, messages) := call.sources failed c.rest
    let reversed := String.join (texts.map fun t => String.join (fullLines t.2).reverse)
    { (ToolResult.ofText reversed).complaining messages with
      takesInput := c.rest.isEmpty }

/-- Writes lines with their characters in reverse order. -/
def rev (call : Call) : ToolResult :=
  let (texts, messages) :=
    call.sources (fun path code => s!"{call.name}: cannot open {path}: {code.words}") call.arguments
  let turned (line : String) : String :=
    let inner := octets (String.ofList (readable (bare line)).toList.reverse)
    if line.endsWith "\n" then inner ++ "\n" else inner
  { (ToolResult.ofText (String.join ((texts.flatMap fun t => fullLines t.2).map turned))).complaining messages with
    takesInput := call.arguments.isEmpty }

/-- Writes what it reads and keeps it in files. -/
def tee (call : Call) : ToolResult :=
  call.choosing [⟨'a', "append", false⟩, ⟨'i', "ignore-interrupts", false⟩] fun c =>
    let put (state : Files × List String) (path : String) : Files × List String :=
      let (files, messages) := state
      match Disk.target files (readable path) FileNode.linkLimit with
      | .error code => (files, messages ++ [call.usual path code])
      | .ok way =>
        match files.root.at? way with
        | some (.directory _) => (files, messages ++ [call.usual path .isDirectory])
        | some (.device _) => (files, messages)
        | _ =>
          let old := if c.has 'a' then Disk.contents files way else []
          (Disk.put files way (.file (old ++ bytesOf call.input)), messages)
    let (files, messages) := c.rest.foldl put (call.files, [])
    { (ToolResult.ofText call.input).complaining messages with files := some files, takesInput := true }

/-! ### Parts of texts -/

/-- A count with the sign in front of it and the unit behind it. -/
def countOf? (s : String) : Option (Option Char × Nat) :=
  let (sign, s) :=
    match s.toList with
    | '-' :: rest => (some '-', rest)
    | '+' :: rest => (some '+', rest)
    | rest => (none, rest)
  let digits := s.takeWhile Char.isDigit
  let factor? : Option Nat :=
    match s.drop digits.length with
    | [] => some 1
    | ['b'] => some 512
    | ['k'] | ['K'] => some 1024
    | ['k', 'B'] => some 1000
    | ['M'] => some 1048576
    | _ => none
  (decimal? (String.ofList digits)).bind fun n => factor?.map fun factor => (sign, n * factor)

/-- Arguments in which a count alone behind a dash has a letter in front. -/
def lettered : List String → List String
  | [] => []
  | first :: rest =>
    match first.toList with
    | '-' :: c :: _ => if c.isDigit then ("-n" ++ (first.drop 1).toString) :: rest else first :: rest
    | _ => first :: rest

/-- Shows a part of each file, with its name above if there are several; `isLast` says that it is the last part. -/
def portion (call : Call) (isLast : Bool) (part : Bool → Option Char → Nat → String → String)
    (arguments : List String) : ToolResult :=
  let known : List Choice :=
    [⟨'n', "lines", true⟩, ⟨'c', "bytes", true⟩, ⟨'q', "quiet", false⟩, ⟨'v', "verbose", false⟩, ⟨'f', "follow", false⟩,
      ⟨'z', "zero-terminated", false⟩]
  let call := { call with arguments }
  call.choosing known fun c =>
    let asked := (c.options.reverse.find? fun o => o.1 = 'n' || o.1 = 'c').getD ('n', "10")
    let unit := if asked.1 = 'n' then "lines" else "bytes"
    match countOf? asked.2 with
    | none => call.refuse s!"invalid number of {unit}: {quotation asked.2}"
    | some (sign, n) =>
      let paths := if c.rest.isEmpty then ["-"] else c.rest
      let names := (1 < paths.length && !c.has 'q') || c.has 'v'
      let step (state : ToolResult × Bool) (path : String) : ToolResult × Bool :=
        let (result, isLater) := state
        match call.read path with
        | .ok text =>
          let title := if path = "-" then "standard input" else path
          let above := if names then (if isLater then "\n" else "") ++ s!"==> {title} <==\n" else ""
          ({ result with written := result.written ++ [(false, above ++ c.byRecord (part (asked.1 = 'n') sign n) text)] }, true)
        | .error code =>
          let message :=
            if code = .isDirectory then s!"{call.name}: error reading {quotedName path}: {code.words}"
            else s!"{call.name}: cannot open {quotedName path} for reading: {code.words}"
          ({ result with status := 1, written := result.written ++ [(true, message ++ "\n")] }, isLater)
      let isFollowing := c.has 'f' && !paths.contains "-"
      { (paths.foldl step ({}, false)).1 with
        takesInput := paths.contains "-", stops := !isLast, isEndless := isFollowing }

/-- Shows the beginnings of files. -/
def head (call : Call) : ToolResult :=
  portion call false (fun byLine sign n text =>
    if byLine then
      let lines := fullLines text
      String.join (lines.take (if sign = some '-' then lines.length - n else n))
    else
      let chars := text.toList
      String.ofList (chars.take (if sign = some '-' then chars.length - n else n))) (lettered call.arguments)

/-- Shows the ends of files. -/
def tail (call : Call) : ToolResult :=
  portion call true (fun byLine sign n text =>
    if byLine then
      let lines := fullLines text
      String.join (lines.drop (if sign = some '+' then n - 1 else lines.length - n))
    else
      let chars := text.toList
      String.ofList (chars.drop (if sign = some '+' then n - 1 else chars.length - n))) (lettered call.arguments)

/-- The ranges of a list of places, from one; a range may be open at its end. -/
def rangesOf? (s : String) : Option (List (Nat × Option Nat)) :=
  (Text.split ',' s).mapM fun part =>
    match Text.split '-' part with
    | [single] => (decimal? single).bind fun n => if n = 0 then none else some (n, some n)
    | [first, last] =>
      if first.isEmpty && last.isEmpty then none
      else
        let low := if first.isEmpty then some 1 else decimal? first
        let high := if last.isEmpty then some none else (decimal? last).map some
        low.bind fun low => high.bind fun high =>
          if low = 0 || high.any (· < low) then none else some (low, high)
    | _ => none

def isIn (ranges : List (Nat × Option Nat)) (place : Nat) : Bool :=
  ranges.any fun (low, high) => low ≤ place && high.all (place ≤ ·)

def chosen {α : Type} (wanted : Nat → Bool) (xs : List α) : List α :=
  (xs.zipIdx.filter fun x => wanted (x.2 + 1)).map Prod.fst

/-- Shows some characters or fields of each line. -/
def cut (call : Call) : ToolResult :=
  let known : List Choice :=
    [⟨'b', "bytes", true⟩, ⟨'c', "characters", true⟩, ⟨'d', "delimiter", true⟩, ⟨'f', "fields", true⟩,
      ⟨'n', "", false⟩, ⟨'s', "only-delimited", false⟩, ⟨'C', "complement", false⟩, ⟨'O', "output-delimiter", true⟩,
      ⟨'z', "zero-terminated", false⟩]
  call.choosing known fun c =>
    let lists := c.options.filter fun o => o.1 = 'b' || o.1 = 'c' || o.1 = 'f'
    match lists with
    | [] => call.usage "you must specify a list of bytes, characters, or fields"
    | _ :: _ :: _ => call.usage "only one list may be specified"
    | [(kind, list)] =>
      let delimiter := (c.value? 'd').getD "\t"
      if kind ≠ 'f' && (c.value? 'd').isSome then
        call.usage "an input delimiter may be specified only when operating on fields"
      else if kind ≠ 'f' && c.has 's' then
        call.usage "suppressing non-delimited lines makes sense\n\tonly when operating on fields"
      else if 1 < delimiter.length then call.usage "the delimiter must be a single character"
      else
        match rangesOf? list with
        | none =>
          let what := if kind = 'f' then "field" else "byte/character position"
          let isDecreasing := (Text.split ',' list).any fun part =>
            match (Text.split '-' part).map decimal? with
            | [some a, some b] => b < a
            | _ => false
          let isZero := (Text.split ',' list).any fun part => (Text.split '-' part).any (· = "0")
          if isDecreasing then call.usage "invalid decreasing range"
          else if isZero then
            call.usage (if kind = 'f' then "fields are numbered from 1" else "byte/character positions are numbered from 1")
          else call.usage s!"invalid {what} value {quotation list}"
        | some ranges =>
          let wanted (n : Nat) : Bool := isIn ranges n != c.has 'C'
          let mark := delimiter.toList.headD '\x00'
          let between := (c.value? 'O').getD (String.singleton mark)
          let lineOf (line : String) : Option String :=
            if kind = 'f' then
              if line.toList.contains mark then some (Text.join between (chosen wanted (Text.split mark line)))
              else if c.has 's' then none
              else some line
            else some (String.ofList (chosen wanted line.toList))
          call.withText c.rest fun text =>
            .ofText (c.byRecord (fun text => ofLines ((linesOf text).filterMap lineOf)) text)

/-- Shortens lines by breaking them. -/
def fold (call : Call) : ToolResult :=
  let known : List Choice := [⟨'w', "width", true⟩, ⟨'s', "spaces", false⟩, ⟨'b', "bytes", false⟩]
  call.choosing known fun c =>
    let asked := (c.value? 'w').getD "80"
    let width := (decimal? asked).getD 0
    let rec pieces (fuel : Nat) (s : List Char) : List String :=
      match fuel with
      | 0 => []
      | fuel + 1 =>
        if s.length ≤ width then [String.ofList s]
        else
          let piece := s.take width
          let atBlank := (piece.reverse.dropWhile (· ≠ ' ')).reverse
          let piece := if c.has 's' && !atBlank.isEmpty then atBlank else piece
          String.ofList piece :: pieces fuel (s.drop piece.length)
    if (decimal? asked).isNone then call.refuse s!"invalid number of columns: {quotation asked}"
    else if width = 0 then
      call.refuse s!"invalid number of columns: {quotation asked}: Numerical result out of range"
    else call.withText c.rest fun text =>
      .ofText (String.join ((fullLines text).map fun line =>
        let inner := bare line
        Text.join "\n" (pieces (inner.length + 1) inner.toList) ++ if line.endsWith "\n" then "\n" else ""))

/-! ### Numbers of lines -/

/-- Numbers lines. -/
def nl (call : Call) : ToolResult :=
  let known : List Choice :=
    [⟨'b', "body-numbering", true⟩, ⟨'w', "number-width", true⟩, ⟨'s', "number-separator", true⟩,
      ⟨'v', "starting-line-number", true⟩, ⟨'n', "number-format", true⟩]
  call.choosing known fun c =>
    let width := ((c.value? 'w').bind decimal?).getD 6
    let separator := (c.value? 's').getD "\t"
    let rec go (n : Nat) : List String → List String
      | [] => []
      | line :: rest =>
        if line.isEmpty && c.value? 'b' ≠ some "a" || c.value? 'b' = some "n" then
          (String.ofList (List.replicate (width + separator.length) ' ') ++ line) :: go n rest
        else (padded width n ++ separator ++ line) :: go (n + 1) rest
    call.withText c.rest fun text => .ofLines (go (((c.value? 'v').bind decimal?).getD 1) (linesOf text))

def wordCount (s : String) : Nat :=
  let isBlank (c : Char) : Bool := c = ' ' || ('\t' ≤ c && c ≤ '\r')
  (s.toList.foldl (fun (state : Nat × Bool) c =>
    if isBlank c then (state.1, false) else if state.2 then state else (state.1 + 1, true)) (0, false)).1

/-- Counts lines, words, characters or bytes. -/
def wc (call : Call) : ToolResult :=
  let known : List Choice :=
    [⟨'l', "lines", false⟩, ⟨'w', "words", false⟩, ⟨'c', "bytes", false⟩, ⟨'m', "chars", false⟩,
      ⟨'L', "max-line-length", false⟩]
  call.choosing known fun c =>
    let has (letter : Char) : Bool := if c.options.isEmpty then "lwc".toList.contains letter else c.has letter
    let counts (text : String) : List Nat :=
      let columns : List (Char × (Unit → Nat)) :=
        [('l', fun _ => text.toList.count '\n'), ('w', fun _ => wordCount text), ('m', fun _ => text.length),
          ('c', fun _ => text.length), ('L', fun _ => ((linesOf text).map String.length).foldl max 0)]
      (columns.filter fun e => has e.1).map fun e => e.2 ()
    let paths := c.rest
    let (texts, messages) := call.sources call.usual paths
    let named := if paths.isEmpty then ["-"] else paths
    let rows := named.filterMap fun path =>
      let name := if paths.isEmpty then "" else " " ++ path
      match call.read path with
      | .ok text => some (counts text, name)
      | .error .isDirectory => some (counts "", name)
      | .error _ => none
    let number := (counts "").length
    let total := (List.range number).map fun k => (rows.map fun r => r.1.getD k 0).foldl (· + ·) 0
    let rows := if 1 < paths.length then rows ++ [(total, " total")] else rows
    let sizes := (texts.map fun t => t.2.length).foldl (· + ·) 0
    let isAlone := number = 1 && paths.length ≤ 1
    let isUsual (path : String) : Bool :=
      match Disk.node call.files (readable path) with
      | .ok (.file _) => true
      | .ok _ => false
      | .error _ => path ≠ "-"
    let width := if isAlone then 1 else if paths.isEmpty || !paths.all isUsual then 7 else (toString sizes).length
    let lines := rows.map fun (row, name) => Text.join " " (row.map (padded width)) ++ name
    { (ToolResult.ofLines lines).complaining messages with
      takesInput := paths.isEmpty || paths.contains "-" }

/-! ### Several texts -/

/-- The lines of several texts side by side. -/
def beside (between : List String) : Nat → List (List String) → List String
  | 0, _ => []
  | fuel + 1, columns =>
    if columns.all List.isEmpty then []
    else
      let row := columns.map fun column => column.headD ""
      let marks := (List.range (columns.length - 1)).map fun k => between.getD (k % max 1 between.length) ""
      String.join ((row.zip (marks ++ [""])).map fun (s, mark) => s ++ mark)
        :: beside between fuel (columns.map (List.drop 1))

/-- Puts the lines of files side by side, or those of each file on a line. -/
def paste (call : Call) : ToolResult :=
  call.choosing [⟨'d', "delimiters", true⟩, ⟨'s', "serial", false⟩] fun c =>
    let given := (c.value? 'd').getD "\t"
    let between := (Format.unescape .lines [] (given.length + 1) given.toList).1.map String.singleton
    let paths := if c.rest.isEmpty then ["-"] else c.rest
    let (texts, messages) := call.sources call.usual paths
    if !messages.isEmpty then .refusal 1 (messages.headD "")
    else
      let columns := texts.map fun t => linesOf t.2
      let inputs := (texts.filter (·.1 = "-")).length
      -- Several dashes take the lines of the input in turns.
      let columns :=
        if inputs < 2 then columns
        else
          let all := linesOf call.input
          let place (k : Nat) : Nat := ((texts.take k).filter (·.1 = "-")).length
          texts.zipIdx.map fun ((path, text), k) =>
            if path = "-" then (all.zipIdx.filter fun x => x.2 % inputs = place k).map Prod.fst else linesOf text
      let rows :=
        if c.has 's' then columns.map fun column => (beside between 2 (column.map ([·]))).headD ""
        else beside between ((columns.map List.length).foldl max 0 + 1) columns
      { ToolResult.ofLines rows with takesInput := paths.contains "-" }

/-- The lines of two sorted texts, with the column each belongs to. -/
def merge : Nat → List String → List String → List (Nat × String)
  | 0, _, _ => []
  | _, [], bs => bs.map fun b => (2, b)
  | _, as, [] => as.map fun a => (1, a)
  | fuel + 1, a :: as, b :: bs =>
    if a = b then (3, a) :: merge fuel as bs
    else if a < b then (1, a) :: merge fuel as (b :: bs)
    else (2, b) :: merge fuel (a :: as) bs

/-- Compares two sorted files line by line. -/
def comm (call : Call) : ToolResult :=
  call.choosing ("123".toList.map fun letter => { letter }) fun c =>
    match c.rest with
    | [first, second] =>
      let (texts, messages) := call.sources call.usual [first, second]
      match texts with
      | [a, b] =>
        let shown := (["1", "2", "3"].zip [1, 2, 3]).filter fun (letter, _) => !c.has (letter.toList.headD ' ')
        let lines := merge (a.2.length + b.2.length + 1) (linesOf a.2) (linesOf b.2)
        .ofLines (lines.filterMap fun (column, line) =>
          if shown.any (·.2 = column) then
            some (String.ofList (List.replicate (shown.filter (·.2 < column)).length '\t') ++ line)
          else none)
      | _ => .refusal 1 (messages.headD "")
    | [] => call.usage "missing operand"
    | [one] => call.usage s!"missing operand after {quotation one}"
    | _ :: _ :: extra :: _ => call.usage s!"extra operand {quotation extra}"

/-- Compares two files. -/
def cmp (call : Call) : ToolResult :=
  call.choosing [⟨'s', "silent", false⟩, ⟨'l', "verbose", false⟩] fun c =>
    match if c.rest.length = 1 then c.rest ++ ["-"] else c.rest with
    | first :: second :: _ =>
      match call.read first, call.read second with
      | .ok a, .ok b =>
        let same := ((a.toList.zip b.toList).takeWhile fun p => p.1 = p.2).map Prod.fst
        let say (result : ToolResult) : ToolResult := if c.has 's' then { result with written := [] } else result
        if a = b then {}
        else if same.length = min a.length b.length then
          let short := if a.length < b.length then first else second
          if same.isEmpty then say (call.refuse s!"EOF on {short} which is empty")
          else
            let lines := same.count '\n'
            let place := if same.getLast? = some '\n' then s!"line {lines}" else s!"in line {lines + 1}"
            say (call.refuse s!"EOF on {short} after byte {same.length}, {place}")
        else
          let line := same.count '\n' + 1
          let place := same.length + 1
          say { ToolResult.ofLines [s!"{first} {second} differ: char {place}, line {line}"] with status := 1 }
      | .error code, _ => call.refuse s!"{first}: {code.words}" 2
      | _, .error code => call.refuse s!"{second}: {code.words}" 2
    | _ => .refusal 2 (Text.join "\n" [s!"{call.name}: missing operand after {quotation call.name}",
        s!"{call.name}: {call.advice}"])

end Stemcell.Rehearsal.Machine.Tool
