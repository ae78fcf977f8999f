import Stemcell.Value.Basic
/-!
The version of this program: the one that it was installed with, or a word for a tree that was not installed.
-/
namespace Stemcell.Version

/-- The version of a tree that was not installed. -/
def development : String := "dev"

/-- The name under which this program is installed. -/
def distribution : String := "stembuild"

/-- The version of a distribution, given the versions of all that are installed. -/
def find (installed : List (String × Value)) (name : String) : Value :=
  ((installed.find? (·.1 = name)).map Prod.snd).getD (.text development)

end Stemcell.Version
