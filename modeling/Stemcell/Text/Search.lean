/-!
Occurrences of one text in another, and cutting and joining texts.
-/
namespace Stemcell.Text

def occursIn (part : List Char) : List Char → Bool
  | [] => part.isEmpty
  | c :: rest => part.isPrefixOf (c :: rest) || occursIn part rest

def contains (s part : String) : Bool := occursIn part.toList s.toList

/-- The pieces of a text between the occurrences of a character. -/
def splitChar (mark : Char) : List Char → List (List Char)
  | [] => [[]]
  | c :: rest =>
    if c = mark then [] :: splitChar mark rest
    else
      match splitChar mark rest with
      | [] => [[c]]
      | piece :: pieces => (c :: piece) :: pieces

/-- The pieces of a string between the occurrences of a character. -/
def split (mark : Char) (s : String) : List String := (splitChar mark s.toList).map String.ofList

/-- At most `n` characters from the front of a string. -/
def cut (n : Nat) (s : String) : String := String.ofList (s.toList.take n)

/-- Strings one after the other with a separator between them. -/
def join (separator : String) (parts : List String) : String := separator.intercalate parts

end Stemcell.Text
