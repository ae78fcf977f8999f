import Stemcell.Guest
/-!
Enabling remote management in a guest that only its hypervisor can reach.
-/
namespace Stemcell.Enabling

/-- The script that opens the guest for remote management. -/
def script : String :=
  "\n".intercalate
    ["$ErrorActionPreference = 'Stop'",
      "Enable-PSRemoting -SkipNetworkProfileCheck -Force",
      "Set-Item -Path WSMan:\\localhost\\Service\\Auth\\Basic -Value $true",
      "Set-Item -Path WSMan:\\localhost\\Service\\AllowUnencrypted -Value $true",
      "Set-Item -Path WSMan:\\localhost\\MaxTimeoutms -Value 7200000",
      "Set-Item -Path WSMan:\\localhost\\Shell\\MaxMemoryPerShellMB -Value 0",
      "Get-NetFirewallRule -Name 'WINRM-HTTP-In-TCP*' | Set-NetFirewallRule -Enabled True -Profile Any",
      "Restart-Service -Name WinRM"]

variable {σ : Type} [Log.Sink σ]

/-- Runs the script in the guest; a failure on the way is the cause of the failure to enable. -/
def enable (hypervisor : Hypervisor.Call → Action σ Value) (guest : Guest) : Action σ Unit := do
  let path ← Action.ofFault guest.inventoryPath.written
  Log.debug .enabling s!"Enabling WinRM on {path}"
  (guest.runScript hypervisor script).wrap .enabling

end Stemcell.Enabling
