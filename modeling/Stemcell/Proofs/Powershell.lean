import Stemcell.Powershell
import Stemcell.Proofs.Text.Base64
import Stemcell.Proofs.Text.Utf16

/-! Encoded commands and the scripts they stand for. -/
namespace Stemcell.Powershell

/-- Every script comes back from its encoded command, whatever characters it has: no step on the
way back fails, and none loses or changes a character. -/
theorem decode_encoded_command (script : String) : decode (encode script) = .ok script := by
  have hbasic := Text.Base64.encode_basic (Text.Utf16.encode script.toList)
  have hany : (Text.Base64.encode (Text.Utf16.encode script.toList)).any
      (fun c => 0x80 ≤ c.toNat) = false := by
    rw [List.any_eq_false]
    intro c hc
    simpa using hbasic c hc
  simp only [decode, encode, String.toList_ofList, hany, Bool.false_eq_true, if_false,
    Text.Base64.decode_encode, Text.Utf16.decode_encode, String.ofList_toList]

end Stemcell.Powershell
