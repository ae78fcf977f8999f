import Stemcell.Config.Field
import Stemcell.Text.Search
/-!
What can be written on the command line: the program itself takes switches and the name of a command, and each
command takes switches of its own. The texts that explain this fit a terminal of 80 columns.
-/
namespace Stemcell.CommandLine

inductive Switch where
  | help
  | verbose
  | field (field : Config.Field)
  | config
  deriving DecidableEq, Repr

namespace Switch

def names : Switch → List String
  | help => ["-h", "--help"]
  | verbose => ["--verbose"]
  | field f => [f.flag]
  | config => ["--config"]

def takesValue : Switch → Bool
  | help | verbose => false
  | field _ | config => true

def label (s : Switch) : String := Text.join "/" s.names

end Switch

inductive CommandName where
  | construct
  | version
  deriving DecidableEq, Repr

def CommandName.word : CommandName → String
  | construct => "construct"
  | version => "version"

def CommandName.all : List CommandName := [construct, version]

/-- Where on the command line something is written: before the command, or behind it. -/
inductive Place where
  | program
  | command (name : CommandName)
  deriving DecidableEq, Repr

namespace Place

def programName : String := "stembuild"

def label : Place → String
  | program => programName
  | command name => s!"{programName} {name.word}"

def switches : Place → List Switch
  | program => [.help, .verbose]
  | command .construct => .help :: Config.Field.all.map .field ++ [.config]
  | command .version => [.help]

def usage : Place → List String
  | program => ["usage: stembuild [-h] [--verbose] \x7bconstruct,version\x7d ..."]
  | command .construct =>
    ["usage: stembuild construct [-h] [--vm-ip VM_IP] [--vm-username VM_USERNAME]",
      "                           [--vm-password VM_PASSWORD]",
      "                           [--vcenter-url VCENTER_URL]",
      "                           [--vcenter-username VCENTER_USERNAME]",
      "                           [--vcenter-password VCENTER_PASSWORD]",
      "                           [--vm-inventory-path VM_INVENTORY_PATH]",
      "                           [--vcenter-ca-certs VCENTER_CA_CERTS]",
      "                           [--config CONFIG]"]
  | command .version => ["usage: stembuild version [-h]"]

def explanation : Place → List String
  | program =>
    ["", "Build BOSH Windows stemcells from vCenter VMs", "", "positional arguments:",
      "  \x7bconstruct,version\x7d",
      "    construct          Transfer automation artifacts to a vCenter VM and",
      "                       prepare it for packaging",
      "    version            Show the stembuild version",
      "", "options:",
      "  -h, --help           show this help message and exit",
      "  --verbose            Log every govc and WinRM command"]
  | command .construct =>
    ["", "options:",
      "  -h, --help            show this help message and exit",
      "  --vm-ip VM_IP         IP of the guest VM (default: $STEMBUILD_VM_IP)",
      "  --vm-username VM_USERNAME",
      "                        Guest administrator username",
      "  --vm-password VM_PASSWORD",
      "                        Guest administrator password",
      "  --vcenter-url VCENTER_URL",
      "                        vCenter URL",
      "  --vcenter-username VCENTER_USERNAME",
      "                        vCenter username",
      "  --vcenter-password VCENTER_PASSWORD",
      "                        vCenter password",
      "  --vm-inventory-path VM_INVENTORY_PATH",
      "                        vCenter inventory path of the VM, e.g. /my-",
      "                        datacenter/vm/my-folder/my-vm-name",
      "  --vcenter-ca-certs VCENTER_CA_CERTS",
      "                        Path to a file of trusted vCenter CA certificates",
      "  --config CONFIG       YAML file providing any of the parameters above"]
  | command .version => ["", "options:", "  -h, --help  show this help message and exit"]

def lines (ls : List String) : String := String.join (ls.map (· ++ "\n"))

def help (p : Place) : String := lines (p.usage ++ p.explanation)

end Place

end Stemcell.CommandLine
