import Mathlib.Data.Nat.Digits.Defs
import MetricsGateway.Number.Literal

/-!
Whole numbers below a limit: what is written in decimal digits reads as the number, and nothing reads
but digits, with a plus sign in front or none, that write a number below the limit.
-/

namespace MetricsGateway.Number

variable {limit value n d : Nat} {c : Char} {cs : List Char}

theorem digit?_digitChar : ∀ d < 10, digit? d.digitChar = some d := by decide

theorem readDigits_concat (h : readDigits limit value cs = .ok n) (hd : digit? c = some d)
    (hlt : n * 10 + d < limit) : readDigits limit value (cs ++ [c]) = .ok (n * 10 + d) := by
  induction cs generalizing value with
  | nil =>
    obtain rfl := Except.ok.inj h
    simp [readDigits, hd, hlt]
  | cons b cs ih =>
    rw [List.cons_append]
    rw [readDigits] at h ⊢
    split at h
    · cases h
    · split at h
      · next hlt' => rw [if_pos hlt', ih h]
      · cases h

theorem readDigits_toDigits (h : n < limit) : readDigits limit 0 (Nat.toDigits 10 n) = .ok n := by
  induction n using Nat.strongRecOn with
  | ind n ih =>
    rw [Nat.toDigits_eq_if (by omega)]
    split
    · next hlt => simp [readDigits, digit?_digitChar n hlt, h]
    · next hge =>
      have hfront := ih (n / 10) (by omega) (by omega)
      have hlast := readDigits_concat hfront (digit?_digitChar (n % 10) (by omega)) (by omega)
      rwa [Nat.div_add_mod' n 10] at hlast

/-- A number below the limit is read as it is written. -/
theorem readUnsigned_toDigits (h : n < limit) :
    readUnsigned limit (Nat.toDigits 10 n) = .ok n := by
  have hread := readDigits_toDigits h
  have hplus : '+' ∉ Nat.toDigits 10 n := fun hm =>
    absurd (Nat.isDigit_of_mem_toDigits (by omega) (by omega) hm) (by decide)
  rw [readUnsigned.eq_def]
  split
  · next hnil => exact absurd hnil Nat.toDigits_ne_nil
  · next hcs => exact absurd (hcs ▸ List.mem_cons_self) hplus
  · next hcs => exact absurd (hcs ▸ List.mem_cons_self) hplus
  · exact hread

/-- Digits that write a number, with a plus sign in front or none. -/
inductive Unsigned : List Char → Nat → Prop where
  | plain {digits : List Char} (hne : digits ≠ []) (h : ∀ c ∈ digits, c.isDigit = true) :
      Unsigned digits (digitsValue digits)
  | plus {digits : List Char} (hne : digits ≠ []) (h : ∀ c ∈ digits, c.isDigit = true) :
      Unsigned ('+' :: digits) (digitsValue digits)

theorem Unsigned.chars (h : Unsigned cs n) : ∀ c ∈ cs, c.isDigit = true ∨ c = '+' := by
  cases h with
  | plain hne h => exact fun c hc => .inl (h c hc)
  | plus hne h =>
    intro c hc
    obtain rfl | hc := List.mem_cons.mp hc
    · exact .inr rfl
    · exact .inl (h c hc)

/-- The number that is written by digits behind a number. -/
def continued (value : Nat) (digits : List Char) : Nat :=
  digits.foldl (fun n c => n * 10 + (c.toNat - '0'.toNat)) value

theorem le_continued : value ≤ continued value cs := by
  induction cs generalizing value with
  | nil => exact Nat.le_refl value
  | cons c cs ih =>
    have hstep : value ≤ value * 10 + (c.toNat - '0'.toNat) := by omega
    exact Nat.le_trans hstep ih

theorem readDigits_eq_ok_iff : readDigits limit value cs = .ok n ↔
    (∀ c ∈ cs, c.isDigit = true) ∧ continued value cs = n ∧ (cs ≠ [] → n < limit) := by
  induction cs generalizing value with
  | nil => simp [readDigits, continued]
  | cons c cs ih =>
    rw [readDigits]
    by_cases hc : c.isDigit = true
    · have hd : digit? c = some (c.toNat - '0'.toNat) := if_pos hc
      have hle : value * 10 + (c.toNat - '0'.toNat) ≤ continued value (c :: cs) := le_continued
      simp only [hd, List.forall_mem_cons, hc, true_and]
      split
      · next hlt =>
        rw [ih]
        refine and_congr_right fun _ => and_congr_right fun hn => ?_
        refine ⟨fun hmore _ => ?_, fun hmore _ => hmore (List.cons_ne_nil c cs)⟩
        by_cases hcs : cs = []
        · subst hcs
          exact hn ▸ hlt
        · exact hmore hcs
      · next hge =>
        refine iff_of_false nofun ?_
        rintro ⟨-, rfl, hlt⟩
        exact hge (Nat.lt_of_le_of_lt hle (hlt (List.cons_ne_nil c cs)))
    · have hd : digit? c = none := if_neg hc
      simp [hd, hc]

/-- A number is read exactly where it is written and below the limit. -/
theorem readUnsigned_eq_ok_iff : readUnsigned limit cs = .ok n ↔ Unsigned cs n ∧ n < limit := by
  rw [readUnsigned.eq_def]
  split
  · refine iff_of_false nofun ?_
    rintro ⟨h, -⟩
    cases h with
    | plain hne => exact hne rfl
  · refine iff_of_false nofun ?_
    rintro ⟨h, -⟩
    cases h with
    | plain hne h => exact absurd (h '+' List.mem_cons_self) (by decide)
    | plus hne => exact hne rfl
  · next digits hne =>
    rw [readDigits_eq_ok_iff]
    constructor
    · rintro ⟨h, rfl, hlt⟩
      exact ⟨.plus hne h, hlt hne⟩
    · rintro ⟨hwritten, hlt⟩
      cases hwritten with
      | plain _ h => exact absurd (h '+' List.mem_cons_self) (by decide)
      | plus _ h => exact ⟨h, rfl, fun _ => hlt⟩
  · next hnil _ hplus =>
    rw [readDigits_eq_ok_iff]
    constructor
    · rintro ⟨h, rfl, hlt⟩
      exact ⟨.plain hnil h, hlt hnil⟩
    · rintro ⟨hwritten, hlt⟩
      cases hwritten with
      | plain _ h => exact ⟨h, rfl, fun _ => hlt⟩
      | @plus digits => exact absurd rfl (hplus digits)

end MetricsGateway.Number
