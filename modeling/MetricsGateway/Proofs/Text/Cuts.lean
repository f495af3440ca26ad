import MetricsGateway.Text.Space
import Mathlib.Data.List.TakeWhile

/-!
Texts cut in two at a separator: the first one stands behind nothing but other characters, and nothing but other
characters stand behind the last one.
-/

namespace MetricsGateway.Text

variable {sep c : Char} {front back before after cs : List Char}

theorem splitOnce_append (h : sep ∉ front) : splitOnce sep (front ++ sep :: back) = some (front, back) := by
  have hall : ∀ c ∈ front, (c != sep) = true := by
    intro c hc
    rw [bne_iff_ne]
    rintro rfl
    exact h hc
  simp only [splitOnce, List.dropWhile_append_of_pos hall, List.takeWhile_append_of_pos hall]
  simp

theorem splitLast_append (h : sep ∉ back) : splitLast sep (front ++ sep :: back) = some (front, back) := by
  have hcut : splitOnce sep (back.reverse ++ sep :: front.reverse) = some (back.reverse, front.reverse) :=
    splitOnce_append (by simpa using h)
  have hreverse : (front ++ sep :: back).reverse = back.reverse ++ sep :: front.reverse := by simp
  rw [splitLast, hreverse, hcut]
  simp

theorem eq_of_splitOnce (h : splitOnce sep cs = some (before, after)) : cs = before ++ sep :: after := by
  rw [splitOnce] at h
  split at h
  · cases h
  · next c rest hdrop =>
    obtain ⟨rfl, rfl⟩ := Prod.mk.inj (Option.some.inj h)
    have hc : (c != sep) = false := by
      have hhead := List.head?_dropWhile_not (· != sep) cs
      rw [hdrop] at hhead
      simpa using hhead
    obtain rfl : c = sep := by simpa using hc
    rw [← hdrop, List.takeWhile_append_dropWhile]

theorem eq_of_splitLast (h : splitLast sep cs = some (before, after)) : cs = before ++ sep :: after := by
  obtain ⟨⟨last, first⟩, hcut, heq⟩ := Option.map_eq_some_iff.mp h
  obtain ⟨rfl, rfl⟩ := Prod.mk.inj heq
  have hreverse := congrArg List.reverse (eq_of_splitOnce hcut)
  simpa using hreverse

/-- What stands behind all separators is behind the last one. -/
theorem subset_of_splitLast (hback : sep ∉ back) (h : splitLast sep (front ++ back) = some (before, after)) :
    back ⊆ after := by
  obtain ⟨more, rfl, hmore⟩ | ⟨more, hfront, hrest⟩ := List.append_eq_append_iff.mp (eq_of_splitLast h)
  · exact absurd (hmore ▸ List.mem_append_right more List.mem_cons_self) hback
  · cases more with
    | nil =>
      rw [List.nil_append] at hrest
      exact absurd (hrest ▸ List.mem_cons_self) hback
    | cons c more =>
      obtain ⟨-, rfl⟩ := List.cons_eq_cons.mp hrest
      exact List.subset_append_right more back

end MetricsGateway.Text
