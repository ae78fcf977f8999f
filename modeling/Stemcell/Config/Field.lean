/-!
The parameters of a construction: what each is called in a file, on the command line and in the environment.
-/
namespace Stemcell.Config

/-- The parameters of a construction. -/
inductive Field where
  | vmIp
  | vmUsername
  | vmPassword
  | vcenterUrl
  | vcenterUsername
  | vcenterPassword
  | vmInventoryPath
  | vcenterCaCerts
  deriving DecidableEq, Repr

namespace Field

/-- All parameters, in the order in which they are looked at. -/
def all : List Field :=
  [vmIp, vmUsername, vmPassword, vcenterUrl, vcenterUsername, vcenterPassword, vmInventoryPath,
    vcenterCaCerts]

/-- The parameters that must be given, in the order in which missing ones are named. -/
def required : List Field :=
  [vmIp, vmUsername, vmPassword, vcenterUrl, vcenterUsername, vcenterPassword, vmInventoryPath]

/-- Every parameter is in the list of all. -/
theorem mem_all (f : Field) : f ∈ all := by cases f <;> decide

/-- The key of a parameter in a file. -/
def key : Field → String
  | vmIp => "vm_ip"
  | vmUsername => "vm_username"
  | vmPassword => "vm_password"
  | vcenterUrl => "vcenter_url"
  | vcenterUsername => "vcenter_username"
  | vcenterPassword => "vcenter_password"
  | vmInventoryPath => "vm_inventory_path"
  | vcenterCaCerts => "vcenter_ca_certs"

/-- The flag of a parameter on the command line. -/
def flag (f : Field) : String :=
  "--" ++ String.ofList (f.key.toList.map fun c => if c = '_' then '-' else c)

def environmentVariable (f : Field) : String := "STEMBUILD_" ++ String.ofList (f.key.toList.map Char.toUpper)

example : vmInventoryPath.flag = "--vm-inventory-path" := by decide +kernel
example : vcenterCaCerts.environmentVariable = "STEMBUILD_VCENTER_CA_CERTS" := by decide +kernel

end Field

end Stemcell.Config
