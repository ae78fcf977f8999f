import Stemcell.Rehearsal.Machine.Regex
import Stemcell.Rehearsal.Machine.Tool.Lines
/-!
A tool that shows the lines in which patterns are found.
-/
namespace Stemcell.Rehearsal.Machine.Tool

open Failure (SystemCode)

def searchChoices : List Choice :=
  [⟨'E', "extended-regexp", false⟩, ⟨'F', "fixed-strings", false⟩, ⟨'G', "basic-regexp", false⟩,
    ⟨'P', "perl-regexp", false⟩, ⟨'e', "regexp", true⟩, ⟨'i', "ignore-case", false⟩, ⟨'y', "", false⟩,
    ⟨'v', "invert-match", false⟩, ⟨'w', "word-regexp", false⟩, ⟨'x', "line-regexp", false⟩, ⟨'c', "count", false⟩,
    ⟨'l', "files-with-matches", false⟩, ⟨'L', "files-without-match", false⟩, ⟨'m', "max-count", true⟩,
    ⟨'o', "only-matching", false⟩, ⟨'q', "quiet", false⟩, ⟨'s', "no-messages", false⟩, ⟨'n', "line-number", false⟩,
    ⟨'b', "byte-offset", false⟩, ⟨'H', "with-filename", false⟩, ⟨'h', "no-filename", false⟩,
    ⟨'A', "after-context", true⟩, ⟨'B', "before-context", true⟩, ⟨'C', "context", true⟩, ⟨'a', "text", false⟩,
    ⟨'r', "recursive", false⟩, ⟨'z', "null-data", false⟩, ⟨'f', "file", true⟩, ⟨'k', "color", false⟩]

/-- A text as an expression that stands for it alone. -/
def literal (s : String) : Regex := s.toList.foldl (fun r c => .both r (.char c)) .empty

/-- The matches of an expression in a line, one behind the other: the text of each. Whole words may be asked for,
or whole lines. -/
def matchesIn (anyCase byWord byLine : Bool) (r : Regex) : Nat → Regex.Place → List String
  | 0, _ => []
  | fuel + 1, p =>
    match Regex.search? anyCase r p with
    | none => []
    | some (first, last) =>
      let size := last.offset - first.offset
      let isWord := !((first.before.head?.any Regex.isWordChar) || (last.after.head?.any Regex.isWordChar))
      let fits := (!byWord || isWord) && (!byLine || (first.before.isEmpty && last.after.isEmpty))
      let next := if fits && 0 < size then last else first.skip 1
      let found := if fits then [String.ofList (first.after.take size)] else []
      if first.after.isEmpty then found else found ++ matchesIn anyCase byWord byLine r fuel next

/-- Lines with their numbers, with those around some of them; nothing stands for a gap. -/
def withContext (before after : Nat) (isHit : Nat → Bool) (lines : List (Nat × String)) :
    List (Option (Bool × Nat × String)) :=
  let isNear (n : Nat) : Bool := (List.range (before + after + 1)).any fun k => after ≤ n + k && isHit (n + k - after)
  let kept := lines.filter fun l => isNear l.1
  let gaps := kept.zip (0 :: kept.map Prod.fst)
  gaps.flatMap fun (l, last) =>
    let gap := if last ≠ 0 && last + 1 < l.1 && 0 < before + after then [none] else []
    gap ++ [some (isHit l.1, l.1, l.2)]

/-- Shows the lines in which patterns are found. -/
def grep (call : Call) : ToolResult :=
  match Choices.read searchChoices false call.arguments with
  | .error message =>
    .refusal 2 (Text.join "\n" [s!"{call.name}: {message}", s!"Usage: {call.name} [OPTION]... PATTERNS [FILE]...",
      s!"Try '{call.name} --help' for more information."])
  | .ok c =>
    let given := (c.options.filter (·.1 = 'e')).map Prod.snd
    let (patterns, paths) := if given.isEmpty then (c.rest.take 1, c.rest.drop 1) else (given, c.rest)
    if patterns.isEmpty then
      .refusal 2 (Text.join "\n" [s!"Usage: {call.name} [OPTION]... PATTERNS [FILE]...",
        s!"Try '{call.name} --help' for more information."])
    else
      let isFixed := c.has 'F' || call.name = "fgrep"
      let isExtended := c.has 'E' || c.has 'P' || call.name = "egrep"
      let read (s : String) : Except String Regex := if isFixed then .ok (literal s) else Regex.read isExtended s
      match (patterns.flatMap fun p => Text.split '\n' p).mapM read with
      | .error message => call.refuse message 2
      | .ok expressions =>
        let r := match expressions with | [] => Regex.empty | first :: rest => rest.foldl .either first
        let anyCase := c.has 'i' || c.has 'y'
        let find (line : String) : List String :=
          matchesIn anyCase (c.has 'w') (c.has 'x') r (line.length + 2) { before := [], after := line.toList }
        let (texts, messages) := call.sources call.usual paths
        let names := if c.has 'h' then false else c.has 'H' || 1 < paths.length
        let count (letter : Char) : Nat :=
          (((c.value? letter).orElse fun _ => c.value? 'C').bind decimal?).getD 0
        let hits : List (String × List (Nat × String) × List (Nat × String)) := texts.map fun (path, text) =>
          let lines : List (Nat × String) := (linesOf text).zipIdx.map fun (line, k) => (k + 1, line)
          let found := lines.filter fun l => (find l.2).isEmpty = c.has 'v'
          let found := match (c.value? 'm').bind decimal? with | some n => found.take n | none => found
          (path, lines, found)
        let output : List String := hits.flatMap fun (path, lines, found) =>
          let title := if path = "-" then "(standard input)" else path
          let front (mark : String) (n : Nat) : String :=
            (if names then title ++ mark else "") ++ if c.has 'n' then toString n ++ mark else ""
          if c.has 'l' then if found.isEmpty then [] else [title]
          else if c.has 'L' then if found.isEmpty then [title] else []
          else if c.has 'c' then [(if names then title ++ ":" else "") ++ toString found.length]
          else if c.has 'o' then
            if c.has 'v' then []
            else found.flatMap fun (n, line) => ((find line).filter (!·.isEmpty)).map fun m => front ":" n ++ m
          else
            let isHit (n : Nat) : Bool := found.any (·.1 = n)
            (withContext (count 'B') (count 'A') isHit lines).map fun row =>
              match row with
              | none => "--"
              | some (true, n, line) => front ":" n ++ line
              | some (false, n, line) => front "-" n ++ line
        let isFound := hits.any fun h => !h.2.2.isEmpty
        let messages := if c.has 's' then [] else messages
        let failed := !messages.isEmpty || texts.length < paths.length
        let result := if c.has 'q' then {} else ToolResult.ofLines output
        { result.complaining messages with
          status := if failed && !(c.has 'q' && isFound) then 2 else if isFound then 0 else 1
          takesInput := paths.isEmpty || paths.contains "-"
          stops := isFound && (c.has 'q' || c.has 'm' || c.has 'l') }

end Stemcell.Rehearsal.Machine.Tool
