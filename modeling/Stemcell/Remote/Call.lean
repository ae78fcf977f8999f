import Stemcell.Value.Basic
/-!
What the remote management of a guest is asked to do.
-/
namespace Stemcell.Remote

/-- A request to the remote management of a guest. -/
inductive Call where
  | reach
  | login
  | execute (command : Value)
  | extract (source destination : Value)
  deriving Repr

end Stemcell.Remote
