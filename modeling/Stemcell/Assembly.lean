import Stemcell.Config.Settings
import Stemcell.Construct
import Stemcell.Remote.Manager
import Stemcell.VCenter.Client
/-!
Putting a preparation together: from the parameters come the vCenter with its guest, the remote management of that
guest, and a crew in which every part uses these two.
-/
namespace Stemcell

open Config (Settings)

/-- What the surroundings of the program do for it. -/
structure Facilities (σ : Type) where
  /-- Starts a program and waits for its end. -/
  start : Program.Request → Action σ Program.Ending
  link : Remote.Link σ
  sleep : Value → Action σ Unit
  out : Stream σ

namespace Config.Settings

def guest (s : Settings) : Guest := ⟨s.value .vmInventoryPath, s.value .vmUsername, s.value .vmPassword⟩

/-- The guest as remote management sees it. -/
def account (s : Settings) : Remote.Account := ⟨s.value .vmIp, s.value .vmUsername, s.value .vmPassword⟩

/-- The vCenter that has the guest. -/
def client (s : Settings) : VCenter.Client :=
  ⟨s.value .vcenterUrl, s.value .vcenterUsername, s.value .vcenterPassword, s.value .vcenterCaCerts⟩

end Config.Settings

namespace Assembly

variable {σ : Type} [Log.Sink σ]

/-- The hypervisor of a vCenter, whose tool is run in an environment. -/
def hypervisor (facilities : Facilities σ) (environ : Environment) (client : VCenter.Client)
    (call : Hypervisor.Call) : Action σ Value :=
  client.perform (fun command more => Program.run environ facilities.start command more .null) call

/-- The crew for a preparation that asks at most `attempts` times whether the guest is off. -/
def crew (facilities : Facilities σ) (hypervisor : Hypervisor.Call → Action σ Value) (version : Value)
    (attempts : Nat) (settings : Settings) : Construct.Crew σ :=
  let remote := Remote.perform facilities.link settings.account
  { version := pure version
    hypervisor := hypervisor
    remote := remote
    enable := Enabling.enable hypervisor settings.guest
    validate := Connection.validate remote
    announce := facilities.out.announce
    poll := Polling.poll attempts facilities.sleep }

end Assembly

end Stemcell
