import Stemcell.Text.Lines
import Stemcell.Text.Utf8
import Stemcell.Yaml.Problem
/-!
The text of a document in bytes. Bytes are read in portions of 8192, and characters are looked at in portions of
4096, the first two of them together; what is wrong with a portion is noticed when it is asked for, and until then
the portions before it can be read.
-/
namespace Stemcell.Yaml

/-- From which place on no character can be had, and why. -/
structure Horizon where
  index : Nat
  obstacle : Obstacle

/-- A text, and the place where it breaks off if it does. -/
structure Source where
  text : List Char
  horizon : Option Horizon := none

namespace Source

def isPrintable (c : Char) : Bool :=
  let n := c.toNat
  c = '\t' || c = '\n' || c = '\r' || (0x20 ≤ n && n ≤ 0x7e) || n = 0x85 || (0xa0 ≤ n && n ≤ 0xd7ff)
    || (0xe000 ≤ n && n ≤ 0xfffd) || 0x10000 ≤ n

def bytePortion : Nat := 8192

def portion : Nat := 4096

/-- The horizon of a text that is unusable from a place on: the start of the portion with that place. -/
def horizonAt (place : Nat) (obstacle : Obstacle) : Horizon :=
  ⟨if place < 2 * portion then 0 else place / portion * portion, obstacle⟩

/-- A text up to the first character that may not stand in it. Of two horizons the nearer one counts. -/
def ofText (text : List Char) (horizon : Option Horizon := none) : Source :=
  let usable := text.takeWhile isPrintable
  match text[usable.length]? with
  | none => ⟨text, horizon⟩
  | some c =>
    let own := horizonAt usable.length (.problem (.unprintable c))
    match horizon with
    | none => ⟨usable, some own⟩
    | some other => if own.index < other.index then ⟨usable, some own⟩ else ⟨text, some other⟩

/-- The characters of a portion of bytes, with unified line ends. A carriage return at its end waits for what
follows. -/
def charactersOf (data : List UInt8) : List Char :=
  let text := (Text.Utf8.wellFormed data).1
  Text.unifyLines (if text.getLast? = some '\r' then text.dropLast else text)

def ofBytes (data : List UInt8) : Source :=
  match Text.Utf8.wellFormed data with
  | (text, none) => ofText (Text.unifyLines text)
  | (_, some place) =>
    let known := if place < data.length then place / bytePortion * bytePortion else data.length
    let text := charactersOf (data.take known)
    ofText text (some (horizonAt text.length (.fault .undecodable)))

end Source

end Stemcell.Yaml
