/-!
Cutting data into pieces that fit a buffer.
-/

namespace MetricsGateway

/-- Pieces of `size` bytes and a last one of at most `size`; there is always a last one. A size of
zero counts as one. -/
def pieces {α : Type} (size : Nat) (data : List α) : List (List α) :=
  if _h : data.drop (max 1 size) = [] then [data]
  else data.take (max 1 size) :: pieces size (data.drop (max 1 size))
  termination_by data.length
  decreasing_by
    have : max 1 size < data.length := by
      obtain h | h := Nat.lt_or_ge (max 1 size) data.length
      · exact h
      · exact absurd (List.drop_eq_nil_of_le h) (by assumption)
    simp only [List.length_drop]
    omega

theorem pieces_flatten {α : Type} (size : Nat) (data : List α) :
    (pieces size data).flatten = data := by
  fun_induction pieces size data with
  | case1 => simp
  | case2 data _ ih => rw [List.flatten_cons, ih, List.take_append_drop]

end MetricsGateway
