/-!
Line ends: a carriage return, alone or with a line feed behind it, counts as a line feed.
-/
namespace Stemcell.Text

/-- A text with a line feed for each line end. -/
def unifyLines : List Char → List Char
  | [] => []
  | '\r' :: '\n' :: rest => '\n' :: unifyLines rest
  | '\r' :: rest => '\n' :: unifyLines rest
  | c :: rest => c :: unifyLines rest

end Stemcell.Text
