/-!
The small letters of characters.
-/

namespace MetricsGateway.Text

variable {c d : Char}

theorem toLower_cases (c : Char) : c.toLower = c ∨
    0x41 ≤ c.toNat ∧ c.toNat ≤ 0x5A ∧ c.toLower.toNat = c.toNat + 0x20 := by
  unfold Char.toLower
  split
  · next h =>
    have hlow : 0x41 ≤ c.toNat := h.1
    have hhigh : c.toNat ≤ 0x5A := h.2
    refine .inr ⟨hlow, hhigh, ?_⟩
    have hadd : (c.val + 0x20).toNat = (c.val.toNat + 0x20) % 2 ^ 32 := UInt32.toNat_add _ _
    exact hadd.trans (Nat.mod_eq_of_lt (by change c.toNat + _ < _; omega))
  · exact .inl rfl

theorem toLower_toLower (c : Char) : c.toLower.toLower = c.toLower := by
  obtain hc | ⟨hlow, -, hc⟩ := toLower_cases c
  · rw [hc, hc]
  · obtain h | ⟨-, hhigh, -⟩ := toLower_cases c.toLower
    · exact h
    · omega

/-- Only small letters are the small letter of another character. -/
theorem eq_of_toLower (h : c.toLower = d) (hd : d.toNat < 0x61) : c = d := by
  obtain hc | ⟨hlow, -, hc⟩ := toLower_cases c
  · rw [← h, hc]
  · rw [h] at hc
    omega

end MetricsGateway.Text
