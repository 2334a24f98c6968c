/-!
The numbers of the letters and digits of ASCII.
-/

namespace DriverValidation.Text

variable {c : Char}

theorem toNat_of_isUpper (hc : c.isUpper = true) : 0x41 ≤ c.toNat ∧ c.toNat ≤ 0x5A := by
  have hrange : 'A'.val ≤ c.val ∧ c.val ≤ 'Z'.val := of_decide_eq_true hc
  rwa [UInt32.le_iff_toNat_le, UInt32.le_iff_toNat_le] at hrange

theorem toNat_of_isLower (hc : c.isLower = true) : 0x61 ≤ c.toNat ∧ c.toNat ≤ 0x7A := by
  obtain ⟨hlow, hhigh⟩ := Bool.and_eq_true_iff.mp hc
  exact ⟨UInt32.le_iff_toNat_le.mp (of_decide_eq_true hlow),
    UInt32.le_iff_toNat_le.mp (of_decide_eq_true hhigh)⟩

theorem toNat_of_isDigit (hc : c.isDigit = true) : 0x30 ≤ c.toNat ∧ c.toNat ≤ 0x39 := by
  obtain ⟨hlow, hhigh⟩ := Bool.and_eq_true_iff.mp hc
  exact ⟨UInt32.le_iff_toNat_le.mp (of_decide_eq_true hlow),
    UInt32.le_iff_toNat_le.mp (of_decide_eq_true hhigh)⟩

end DriverValidation.Text
