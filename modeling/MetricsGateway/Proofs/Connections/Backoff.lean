import Mathlib.Algebra.Group.Nat.Defs
import MetricsGateway.Connections.Backoff

/-!
Pauses between retries, compared with arithmetic that knows no largest word. Main statement: the pauses of an
attempt are the doubled base up to the cap with up to a tenth of it on top, whatever the base and the cap, and
every such number is one of them. The pauses after a failed accept are a case of it.
-/

namespace MetricsGateway.Backoff

variable {attempt later base cap jitter pause c n : Nat}

theorem saturatingPowTwo_eq (n : Nat) : saturatingPowTwo n = min (2 ^ n) maxWord := by
  have hword : maxWord = 2 ^ 64 - 1 := rfl
  unfold saturatingPowTwo
  split
  · next hlt =>
    have hle : 2 ^ n ≤ 2 ^ 63 := Nat.pow_le_pow_right Nat.two_pos (Nat.le_of_lt_succ hlt)
    rw [Nat.one_shiftLeft, Nat.min_eq_left (by omega)]
  · next hge =>
    have hle : 2 ^ 64 ≤ 2 ^ n := Nat.pow_le_pow_right Nat.two_pos (Nat.not_lt.mp hge)
    rw [Nat.min_eq_right (by omega)]

/-- Where a word cannot hold the doubled base, the cap is reached all the same. -/
theorem capped_eq (h : cap ≤ maxWord) : capped attempt base cap = min (base * 2 ^ (attempt - 1)) cap := by
  rw [capped, saturatingMul, saturatingPowTwo_eq, Nat.min_assoc, Nat.min_eq_right h]
  obtain hle | hgt := Nat.le_total (2 ^ (attempt - 1)) maxWord
  · rw [Nat.min_eq_left hle]
  · rw [Nat.min_eq_right hgt]
    cases base with
    | zero => rw [Nat.zero_mul, Nat.zero_mul]
    | succ base =>
      have hword : maxWord ≤ (base + 1) * maxWord := Nat.le_mul_of_pos_left _ base.succ_pos
      have hpower : 2 ^ (attempt - 1) ≤ (base + 1) * 2 ^ (attempt - 1) := Nat.le_mul_of_pos_left _ base.succ_pos
      rw [Nat.min_eq_right (Nat.le_trans h hword), Nat.min_eq_right (Nat.le_trans h (Nat.le_trans hgt hpower))]

theorem jitter_lt_iff : jitter < jitterRange attempt base cap ↔
    jitter = 0 ∨ jitter < capped attempt base cap / 10 := by
  unfold jitterRange
  omega

theorem delay_eq_some_iff (hattempt : attempt ≠ 0) :
    delay attempt base cap jitter = some pause ↔
      capped attempt base cap + jitter = pause ∧ pause ≤ maxWord := by
  rw [delay, if_neg hattempt, Option.ite_none_right_eq_some, Option.some.injEq]
  constructor
  · rintro ⟨hle, rfl⟩
    exact ⟨rfl, hle⟩
  · rintro ⟨rfl, hle⟩
    exact ⟨hle, rfl⟩

theorem delay_eq (hattempt : attempt ≠ 0) (h : capped attempt base cap + jitter ≤ maxWord) :
    delay attempt base cap jitter = some (capped attempt base cap + jitter) :=
  (delay_eq_some_iff hattempt).mpr ⟨rfl, h⟩

/-- The pause after a failed accept, in milliseconds. -/
theorem delay_accept (hattempt : attempt ≠ 0) (hjitter : jitter < jitterRange attempt acceptBase acceptCap) :
    ∃ pause, delay attempt acceptBase acceptCap jitter = some pause ∧
      min (5 * 2 ^ (attempt - 1)) 1000 ≤ pause ∧ 10 * pause ≤ 11 * min (5 * 2 ^ (attempt - 1)) 1000 ∧
      5 ≤ pause ∧ pause ≤ 1099 := by
  have hcapped : capped attempt acceptBase acceptCap = min (5 * 2 ^ (attempt - 1)) 1000 :=
    capped_eq (by decide)
  have hpower : 1 ≤ 2 ^ (attempt - 1) := Nat.one_le_two_pow
  have hlonger := jitter_lt_iff.mp hjitter
  rw [hcapped] at hlonger
  have hword : capped attempt acceptBase acceptCap + jitter ≤ maxWord := by
    have hlarge : 1100 ≤ maxWord := by decide
    omega
  refine ⟨_, delay_eq hattempt hword, ?_⟩
  rw [hcapped]
  omega

/-! ## All pauses of an attempt -/

theorem capped_le_cap (attempt base cap : Nat) : capped attempt base cap ≤ cap := Nat.min_le_right _ _

theorem capped_mono (hcap : cap ≤ maxWord) (h : attempt ≤ later) :
    capped attempt base cap ≤ capped later base cap := by
  have hpower : 2 ^ (attempt - 1) ≤ 2 ^ (later - 1) :=
    Nat.pow_le_pow_right Nat.two_pos (Nat.sub_le_sub_right h 1)
  have hproduct : base * 2 ^ (attempt - 1) ≤ base * 2 ^ (later - 1) := Nat.mul_le_mul_left base hpower
  rw [capped_eq hcap, capped_eq hcap]
  omega

/-- Where a pause lies that lasts `c` before it is lengthened: a tenth is not reached, and a pause below ten
is not lengthened at all. -/
def Lengthened (c pause : Nat) : Prop := c ≤ pause ∧ if 10 ≤ c then pause < c + c / 10 else pause = c

instance : Decidable (Lengthened c pause) :=
  inferInstanceAs (Decidable (c ≤ pause ∧ if 10 ≤ c then pause < c + c / 10 else pause = c))

/-- The pauses with all lengthenings are all the numbers in their range that a word can hold. -/
theorem exists_delay_iff (hattempt : attempt ≠ 0) :
    (∃ jitter < jitterRange attempt base cap, delay attempt base cap jitter = some pause) ↔
      Lengthened (capped attempt base cap) pause ∧ pause ≤ maxWord := by
  simp only [jitter_lt_iff, delay_eq_some_iff hattempt, Lengthened]
  constructor
  · rintro ⟨jitter, hjitter, rfl, hword⟩
    refine ⟨⟨Nat.le_add_right _ _, ?_⟩, hword⟩
    split <;> omega
  · rintro ⟨⟨hle, hlonger⟩, hword⟩
    refine ⟨pause - capped attempt base cap, ?_, Nat.add_sub_cancel' hle, hword⟩
    split at hlonger <;> omega

/-- No pause overflows exactly when the longest one fits a word. -/
theorem forall_exists_delay_iff (hattempt : attempt ≠ 0) (hcap : cap ≤ maxWord) :
    (∀ jitter < jitterRange attempt base cap, ∃ pause, delay attempt base cap jitter = some pause) ↔
      capped attempt base cap + (capped attempt base cap / 10 - 1) ≤ maxWord := by
  have hle : capped attempt base cap ≤ maxWord := Nat.le_trans (capped_le_cap attempt base cap) hcap
  simp only [jitter_lt_iff, delay_eq_some_iff hattempt, exists_eq_left']
  constructor
  · intro h
    obtain hten | hten := Nat.lt_or_ge (capped attempt base cap / 10) 1
    · omega
    · exact h (capped attempt base cap / 10 - 1) (.inr (by omega))
  · rintro h jitter (rfl | hjitter) <;> omega

theorem bounds_eq (hattempt : attempt ≠ 0) (hcap : cap ≤ maxWord) :
    bounds attempt base cap =
      if capped attempt base cap + (capped attempt base cap / 10 - 1) ≤ maxWord then
        some (capped attempt base cap, capped attempt base cap + (capped attempt base cap / 10 - 1))
      else none := by
  have hle : capped attempt base cap ≤ maxWord := Nat.le_trans (capped_le_cap attempt base cap) hcap
  have hlongest : jitterRange attempt base cap - 1 = capped attempt base cap / 10 - 1 := by
    unfold jitterRange
    omega
  by_cases hfits : capped attempt base cap + (capped attempt base cap / 10 - 1) ≤ maxWord
  · rw [bounds, hlongest, delay_eq hattempt (Nat.le_of_add_right_le hfits), delay_eq hattempt hfits, if_pos hfits]
    rfl
  · have hnone : delay attempt base cap (capped attempt base cap / 10 - 1) = none := by
      rw [delay, if_neg hattempt]
      exact if_neg hfits
    rw [bounds, hlongest, delay_eq hattempt hle, hnone, if_neg hfits]
    rfl

/-- The pauses of an attempt, with `c` the doubled base up to the cap in numbers of any size: none overflows
exactly when the longest fits a word; they are all the numbers from `c` on that stay below a tenth more, and `c`
alone where it is below ten; and the shortest one never decreases from one attempt to a later one and never
exceeds the cap. -/
theorem delay_fills_range (hattempt : 1 ≤ attempt) (hcap : cap < 2 ^ 64)
    (hc : c = min (base * 2 ^ (attempt - 1)) cap) :
    ((∀ jitter < jitterRange attempt base cap, ∃ pause, delay attempt base cap jitter = some pause) ↔
      c + (c / 10 - 1) < 2 ^ 64) ∧
    (∀ pause, (∃ jitter < jitterRange attempt base cap, delay attempt base cap jitter = some pause) ↔
      Lengthened c pause ∧ pause < 2 ^ 64) ∧
    (bounds attempt base cap = if c + (c / 10 - 1) < 2 ^ 64 then some (c, c + (c / 10 - 1)) else none) ∧
    delay attempt base cap 0 = some c ∧ c ≤ cap ∧
    ∀ later, attempt ≤ later → ∃ low, delay later base cap 0 = some low ∧ c ≤ low := by
  have hword (n : Nat) : n < 2 ^ 64 ↔ n ≤ maxWord := Nat.lt_succ_iff
  have hattempt : attempt ≠ 0 := Nat.one_le_iff_ne_zero.mp hattempt
  rw [hword] at hcap
  obtain rfl : c = capped attempt base cap := hc.trans (capped_eq hcap).symm
  have hlow (later : Nat) : capped later base cap + 0 ≤ maxWord := Nat.le_trans (capped_le_cap later base cap) hcap
  simp only [hword]
  refine ⟨forall_exists_delay_iff hattempt hcap, fun pause => exists_delay_iff hattempt, bounds_eq hattempt hcap,
    delay_eq hattempt (hlow attempt), capped_le_cap attempt base cap, fun later hlater => ?_⟩
  have hlater' : later ≠ 0 := Nat.ne_of_gt (Nat.lt_of_lt_of_le (Nat.pos_of_ne_zero hattempt) hlater)
  exact ⟨capped later base cap, delay_eq hlater' (hlow later), capped_mono hcap hlater⟩

/-- A product that no word can hold, under the largest cap with which no pause overflows: the longest pause is
the largest word. -/
theorem delay_fills_range_to_the_brim :
    min (3 * 2 ^ (64 - 1)) 16769767339735956015 = 16769767339735956015 ∧
    (∀ jitter < jitterRange 64 3 16769767339735956015, ∃ pause,
      delay 64 3 16769767339735956015 jitter = some pause) ∧
    (∃ jitter < jitterRange 64 3 16769767339735956015,
      delay 64 3 16769767339735956015 jitter = some (2 ^ 64 - 1)) ∧
    bounds 64 3 16769767339735956015 = some (16769767339735956015, 2 ^ 64 - 1) := by
  have hc : min (3 * 2 ^ (64 - 1)) 16769767339735956015 = 16769767339735956015 := by decide
  obtain ⟨hfits, hrange, hbounds, -⟩ :=
    delay_fills_range (by decide : 1 ≤ 64) (by decide : 16769767339735956015 < 2 ^ 64) hc.symm
  exact ⟨hc, hfits.mpr (by decide), (hrange _).mpr (by decide), hbounds.trans (by decide)⟩

end MetricsGateway.Backoff
