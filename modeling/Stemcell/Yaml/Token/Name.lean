import Stemcell.Text.Utf8
import Stemcell.Yaml.Token.Scalar
/-!
Names in a document: anchors and aliases, tags, and the directives that give tags their short forms.
-/
namespace Stemcell.Yaml

def isNameChar (c : Char) : Bool := c.isAlphanum || c = '-' || c = '_'

def name (c : Cursor) : Except Obstacle (String × Cursor) :=
  let (chars, c) := c.span isNameChar
  if chars.isEmpty then .error (.problem (.expected "alphabetic or numeric character"))
  else .ok (String.ofList chars, c)

def endsName (c : Option Char) : Bool :=
  endsWord c
    || match c with
      | some c => "?:,]\x7d%@`".toList.contains c
      | none => false

/-- Reads the name of an anchor or an alias behind its mark. -/
def anchorName (c : Cursor) : Except Obstacle (String × Cursor) := do
  let (name, c) ← name c.next
  if endsName c.peek then return (name, c)
  else throw (.problem (.expected "alphabetic or numeric character"))

namespace TagText

def marks : List Char := "-;/?:@&=+$,_.!~*'()[]%".toList

def isTagChar (c : Char) : Bool := c.isAlphanum || marks.contains c

/-- Reads bytes in the form of a percent sign and two digits of base 16. -/
def bytes (done : List UInt8) : Nat → Cursor → Except Obstacle (List UInt8 × Cursor)
  | 0, c => .ok (done.reverse, c)
  | fuel + 1, c =>
    match c.rest with
    | '%' :: a :: b :: _ =>
      match Quoted.hexNumber? [a, b] with
      | some n => bytes (UInt8.ofNat n :: done) fuel (c.skip 3)
      | none => .error (.problem (.expected "URI escape sequence of 2 hexadecimal numbers"))
    | '%' :: _ => .error (.problem (.expected "URI escape sequence of 2 hexadecimal numbers"))
    | _ => .ok (done.reverse, c)

/-- Reads the text of a tag, behind what was read. -/
def textFrom (done : List Char) : Nat → Cursor → Except Obstacle (List Char × Cursor)
  | 0, c => .ok (done, c)
  | fuel + 1, c =>
    let (chars, c) := c.span fun ch => isTagChar ch && ch ≠ '%'
    if c.peek ≠ some '%' then .ok (done ++ chars, c)
    else
      match bytes [] c.rest.length c with
      | .error e => .error e
      | .ok (data, c) =>
        match Text.Utf8.decode? data with
        | some escaped => textFrom (done ++ chars ++ escaped) fuel c
        | none => .error (.problem (.expected "well-formed text"))

def text (c : Cursor) : Except Obstacle (String × Cursor) := do
  if (c.peek.map isTagChar).getD false then
    let (chars, c) ← textFrom [] c.rest.length c
    return (String.ofList chars, c)
  else throw (.problem (.expected "URI"))

/-- Reads a handle: a mark, or a name between two marks. -/
def handle (c : Cursor) : Except Obstacle (String × Cursor) :=
  if c.peek ≠ some '!' then .error (.problem (.expected "'!'"))
  else if c.peekAt 1 = some ' ' then .ok ("!", c.next)
  else
    let (chars, c) := c.next.span isNameChar
    if c.peek = some '!' then .ok (String.ofList ('!' :: chars ++ ['!']), c.next)
    else .error (.problem (.expected "'!'"))

/-- Whether there is a second mark in this word. -/
def hasHandle : List Char → Bool
  | [] => false
  | c :: rest => if endsPart (some c) then false else c = '!' || hasHandle rest

/-- Reads a tag without looking behind it. -/
def read (c : Cursor) : Except Obstacle (Token × Cursor) := do
  if c.peekAt 1 = some '<' then
    let (suffix, c) ← text (c.skip 2)
    if c.peek = some '>' then return (.tag none suffix, c.next)
    else throw (.problem (.expected "'>'"))
  else if endsWord (c.peekAt 1) then return (.tag none "!", c.next)
  else if hasHandle (c.rest.drop 1) then
    let (handle, c) ← handle c
    let (suffix, c) ← text c
    return (.tag (some handle) suffix, c)
  else
    let (suffix, c) ← text c.next
    return (.tag (some "!") suffix, c)

def token (c : Cursor) : Except Obstacle (Token × Cursor) := do
  let (token, c) ← read c
  if endsPart c.peek then return (token, c) else throw (.problem (.expected "' '"))

end TagText

namespace Directive

def number (c : Cursor) : Except Obstacle (Nat × Cursor) :=
  let (digits, c) := c.span Char.isDigit
  if digits.isEmpty then .error (.problem (.expected "a digit"))
  else if Number.digitLimit < digits.length then .error (.fault (.tooManyDigits digits.length))
  else .ok (Json.natOf digits, c)

/-- Reads what a directive of a known name says. -/
def content (name : String) (c : Cursor) : Except Obstacle (Directive × Cursor) := do
  if name = "YAML" then
    let (major, c) ← number c.dropSpaces
    if c.peek ≠ some '.' then throw (.problem (.expected "a digit or '.'"))
    let (minor, c) ← number c.next
    if endsPart c.peek then return (.version major minor, c)
    else throw (.problem (.expected "a digit or ' '"))
  else if name = "TAG" then
    let (short, c) ← TagText.handle c.dropSpaces
    if c.peek ≠ some ' ' then throw (.problem (.expected "' '"))
    let (start, c) ← TagText.text c.dropSpaces
    if endsPart c.peek then return (.handle short start, c)
    else throw (.problem (.expected "' '"))
  else return (.other, c.dropWhile (!isBreak ·))

def token (c : Cursor) : Except Obstacle (Token × Cursor) := do
  let (name, c) ← name c.next
  if !endsPart c.peek then throw (.problem (.expected "alphabetic or numeric character"))
  let (directive, c) ← content name c
  let c := c.dropSpaces.dropRemark
  if endsLine c.peek then return (.directive directive, (c.lineEnd?.map Prod.snd).getD c)
  else throw (.problem (.expected "a comment or a line break"))

end Directive

end Stemcell.Yaml
