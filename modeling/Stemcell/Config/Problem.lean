import Stemcell.Config.Field
import Stemcell.Text.Search
import Stemcell.Value.Display
/-!
What can be wrong with the parameters of a construction.
-/
namespace Stemcell.Config

inductive Problem where
  | fileNotFound (path : Value)
  /-- The file is no YAML document; what is wrong with it. -/
  | notYaml (detail : String)
  | notMapping (path : Value)
  | unknownKeys (path : Value) (keys : List String)
  /-- Required parameters are not given. -/
  | missing (fields : List Field)
  | noCertificates (path : Value)
  | noArtifact (name : String)
  deriving Repr

def Problem.message : Problem → String
  | .fileNotFound path => s!"Config file '{path.display}' not found."
  | .notYaml detail => s!"Error parsing YAML config: {detail}"
  | .notMapping path => s!"Config file '{path.display}' must contain a mapping."
  | .unknownKeys path keys =>
    s!"Unknown config keys in '{path.display}': " ++ Text.join ", " keys
  | .missing fields => "missing required parameters: " ++ Text.join ", " (fields.map Field.flag)
  | .noCertificates path => s!"cannot read the vCenter CA certificate file: {path.display}"
  | .noArtifact name => s!"Could not find {name} in the current directory"

/-- The checks against a vCenter before anything is done to the guest. -/
inductive Check where
  | url
  | credentials (vcenterUrl : Value)
  | inventoryPath
  deriving Repr

def Check.message : Check → String
  | .url => "please provide a valid vCenter URL"
  | .credentials vcenterUrl => s!"please provide valid credentials for {vcenterUrl.display}"
  | .inventoryPath =>
    "VM path is invalid\nPlease make sure to format your inventory path correctly using the 'vm' keyword. "
      ++ "Example: /my-datacenter/vm/my-folder/my-vm-name"

end Stemcell.Config
