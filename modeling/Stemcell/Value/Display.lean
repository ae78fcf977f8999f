import Stemcell.Number.Decimal
import Stemcell.Text.Quoted
import Stemcell.Value.Basic
/-!
The text of a value in messages: a text stands for itself, and inside a collection it is quoted.
-/
namespace Stemcell

def padded (width n : Nat) : String :=
  let digits := toString n
  String.ofList (List.replicate (width - digits.length) '0') ++ digits

namespace Date

/-- The day as year, month and day. -/
def display (d : Date) : String := s!"{padded 4 d.year}-{padded 2 d.month}-{padded 2 d.day}"

end Date

namespace Clock

/-- The time of day, with the microseconds if there are any. -/
def display (t : Clock) : String :=
  let whole := s!"{padded 2 t.hour}:{padded 2 t.minute}:{padded 2 t.second}"
  if t.microsecond = 0 then whole else s!"{whole}.{padded 6 t.microsecond}"

end Clock

/-- A distance from universal time in hours and minutes, with the seconds if there are any. -/
def offsetText (seconds : Int) : String :=
  let sign := if seconds < 0 then "-" else "+"
  let n := seconds.natAbs
  let whole := s!"{sign}{padded 2 (n / 3600)}:{padded 2 (n / 60 % 60)}"
  if n % 60 = 0 then whole else s!"{whole}:{padded 2 (n % 60)}"

namespace Value

/-- A time on a day with a mark between the two. -/
def momentText (mark : String) (day : Date) (time : Clock) (offset : Option Int) : String :=
  let zone := (offset.map offsetText).getD ""
  s!"{day.display}{mark}{time.display}{zone}"

/-- The arguments that make up a distance from universal time, days and seconds, the seconds never negative. -/
def offsetShown (seconds : Int) : String :=
  if seconds = 0 then "datetime.timezone.utc"
  else
    let days := Int.fdiv seconds 86400
    let rest := Int.fmod seconds 86400
    let parts :=
      (if days = 0 then [] else [s!"days={days}"]) ++ (if rest = 0 then [] else [s!"seconds={rest}"])
    "datetime.timezone(datetime.timedelta(" ++ ", ".intercalate parts ++ "))"

/-- A time on a day inside a collection; seconds and microseconds of zero are left out at the end. -/
def momentShown (day : Date) (time : Clock) (offset : Option Int) : String :=
  let fields := [day.year, day.month, day.day, time.hour, time.minute]
  let fine :=
    if time.microsecond ≠ 0 then [time.second, time.microsecond]
    else if time.second ≠ 0 then [time.second]
    else []
  let zone := (offset.map fun z => ", tzinfo=" ++ offsetShown z).getD ""
  "datetime.datetime(" ++ ", ".intercalate ((fields ++ fine).map toString) ++ zone ++ ")"

mutual

/-- The text of a value inside a collection. -/
def shown : Value → String
  | .null => "None"
  | .bool true => "True"
  | .bool false => "False"
  | .int n => toString n
  | .float x => x.display
  | .text s => Text.quoted s
  | .ragged codes => Text.quotedCodes codes
  | .bytes data => Text.quotedBytes data
  | .date d => s!"datetime.date({d.year}, {d.month}, {d.day})"
  | .moment day time offset => momentShown day time offset
  | .list items => "[" ++ ", ".intercalate (shownItems items) ++ "]"
  | .pair first second => "(" ++ first.shown ++ ", " ++ second.shown ++ ")"
  | .set [] => "set()"
  | .set (item :: items) => "\x7b" ++ ", ".intercalate (item.shown :: shownItems items) ++ "\x7d"
  | .mapping entries => "\x7b" ++ ", ".intercalate (shownEntries entries) ++ "\x7d"
  | .enclosing true => "\x7b...\x7d"
  | .enclosing false => "[...]"

def shownItems : List Value → List String
  | [] => []
  | item :: items => item.shown :: shownItems items

def shownEntries : List (Value × Value) → List String
  | [] => []
  | (key, value) :: entries => (key.shown ++ ": " ++ value.shown) :: shownEntries entries

end

def display : Value → String
  | .text s => s
  | .ragged codes => String.ofList (Text.Surrogate.joined codes)
  | .date d => d.display
  | .moment day time offset => momentText " " day time offset
  | v => v.shown

/-- The numbers of the characters of the text of a value on its own. -/
def displayCodes (v : Value) : List Nat := v.codes?.getD (v.display.toList.map Char.toNat)

/-- A text on its own is shown as it is. -/
theorem display_text (s : String) : (Value.text s).display = s := rfl

end Value

end Stemcell
