import Stemcell.Config.Field
import Stemcell.Environment
/-!
The values of the parameters. A flag wins over the environment, the environment over the file, the file over the
default; an empty flag or variable is as good as none, an empty value in the file is a value. Each parameter is
settled without a look at the others.
-/
namespace Stemcell.Config

/-- The parameters of a construction with their values. -/
structure Settings where
  value : Field → Value

/-- The value of a parameter that is given nowhere. -/
def Field.default : Field → Value
  | .vcenterCaCerts => .null
  | _ => .text ""

/-- A value that is given, unless it is empty. -/
def given (value : Option Value) : Option Value := value.filter Value.isTruthy

namespace Settings

/-- The parameters from flags, an environment and the entries of a file. -/
def resolve (flags : Field → Value) (environ : Environment) (entries : List (Value × Value)) : Settings where
  value f :=
    ((given (some (flags f))).or
      ((given (environ.get? f.environmentVariable)).or (Value.field? f.key entries))).getD f.default

/-- The required parameters without a value, in order. -/
def missing (s : Settings) : List Field := Field.required.filter fun f => !(s.value f).isTruthy

end Settings

end Stemcell.Config
