import Mathlib.Data.List.SplitBy

/-!
Stretches of one class of characters: where one ends when a text is read from its start, and all of them in
order.
-/

namespace MetricsGateway.Text

variable {p : Char → Bool} {cs tail stretch rest : List Char}

theorem takeWhile_left (hall : ∀ c ∈ cs, p c = true) (hstop : ∀ c ∈ tail.head?, p c = false) :
    (cs ++ tail).takeWhile p = cs := by
  rw [List.takeWhile_append_of_pos hall]
  cases tail with
  | nil => rw [List.takeWhile_nil, List.append_nil]
  | cons c tail =>
    rw [List.takeWhile_cons_of_neg (by simp [hstop c rfl]), List.append_nil]

theorem dropWhile_left (hall : ∀ c ∈ cs, p c = true) (hstop : ∀ c ∈ tail.head?, p c = false) :
    (cs ++ tail).dropWhile p = tail := by
  rw [List.dropWhile_append_of_pos hall]
  cases tail with
  | nil => rfl
  | cons c tail => rw [List.dropWhile_cons_of_neg (by simp [hstop c rfl])]

/-- The longest stretches of a text in which all characters are in the class, or none is. -/
def stretches (p : Char → Bool) (cs : List Char) : List (List Char) :=
  cs.splitBy fun a b => p a == p b

theorem stretches_append {value : Bool} (hne : stretch ≠ []) (hall : ∀ c ∈ stretch, p c = value)
    (hstop : ∀ c ∈ rest.head?, p c = !value) : stretches p (stretch ++ rest) = stretch :: stretches p rest := by
  have hsame : stretch.IsChain fun a b => (p a == p b) = true := by
    refine (List.pairwise_of_forall_mem_list fun a ha b hb => ?_).isChain
    rw [hall a ha, hall b hb, beq_self_eq_true]
  have hend : ∀ a ∈ stretch.getLast?, ∀ b ∈ rest.head?, (p a == p b) = false := by
    intro a ha b hb
    rw [hall a (List.mem_of_mem_getLast? ha), hstop b hb]
    cases value <;> rfl
  rw [stretches, List.splitBy_append hend, List.splitBy_of_isChain hne hsame]
  rfl

end MetricsGateway.Text
