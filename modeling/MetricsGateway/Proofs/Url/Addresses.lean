import MetricsGateway.Proofs.Url.Sound

/-!
The text of an IPv6 address: eight pieces, and at most eight colons, however many zeros are left out.
-/

namespace MetricsGateway

theorem Text.count_intercalate {sep : Char} {parts : List (List Char)} (h : ∀ part ∈ parts, sep ∉ part) :
    ([sep].intercalate parts).count sep = parts.length - 1 := by
  induction parts with
  | nil => rfl
  | cons part parts ih =>
    have hpart : part.count sep = 0 := List.count_eq_zero.mpr (h part List.mem_cons_self)
    cases parts with
    | nil => simpa using hpart
    | cons next parts =>
      rw [List.intercalate_cons_cons, List.count_append, List.count_append, hpart,
        ih fun p hp => h p (List.mem_cons_of_mem part hp), List.count_singleton_self]
      simp only [List.length_cons]
      omega

namespace Address

variable {cs : List Char} {pieces : List Nat} {n : Nat}

/-- The pieces on both sides of a gap, and zeros in it, are eight. -/
theorem length_of_filled {read : Pieces} (h : (match read.gap with
    | none => if read.pieces.length = 8 then some read.pieces else none
    | some gap =>
      if 8 < read.pieces.length then none
      else some (read.pieces.take gap ++ List.replicate (8 - read.pieces.length) 0 ++
        read.pieces.drop gap)) = some pieces) : pieces.length = 8 := by
  split at h
  · split at h
    · next hlength => rw [← Option.some.inj h, hlength]
    · cases h
  · split at h
    · cases h
    · rw [← Option.some.inj h]
      simp only [List.length_append, List.length_take, List.length_replicate, List.length_drop]
      omega

theorem length_of_ipv6? (h : ipv6? cs = some pieces) : pieces.length = 8 := by
  simp only [ipv6?, Option.bind_eq_bind] at h
  split at h
  · obtain ⟨read, -, hread⟩ := Option.bind_eq_some_iff.mp h
    exact length_of_filled hread
  · cases h
  · split at h
    · cases h
    · obtain ⟨read, -, hread⟩ := Option.bind_eq_some_iff.mp h
      exact length_of_filled hread

/-- A run of zeros that is left out begins at one of the pieces. -/
theorem zeroRun_lt : (zeroRun pieces).2 = 0 ∨ (zeroRun pieces).1 < 8 := by
  rw [zeroRun]
  refine List.foldlRecOn (motive := fun best : Nat × Nat => best.2 = 0 ∨ best.1 < 8) (List.range 8) _
    (.inl rfl) fun best hbest i hi => ?_
  dsimp only
  split
  · exact .inr (List.mem_range.mp hi)
  · exact hbest

theorem colon_not_mem_hexDigits : ':' ∉ Text.hexDigits n := by
  intro hm
  exact Text.forall_mem_toDigits (p := (· ≠ ':')) (by decide) (by omega) (by omega) n ':' hm rfl

theorem count_pieces (ps : List Nat) :
    (":".intercalate (ps.map fun p => String.ofList (Text.hexDigits p))).toList.count ':' = ps.length - 1 := by
  rw [String.toList_intercalate]
  refine (Text.count_intercalate fun part hpart => ?_).trans (by simp)
  obtain ⟨text, htext, rfl⟩ := List.mem_map.mp hpart
  obtain ⟨p, -, rfl⟩ := List.mem_map.mp htext
  rw [String.toList_ofList]
  exact colon_not_mem_hexDigits

theorem count_ipv6Text_le (h : pieces.length = 8) : (ipv6Text pieces).toList.count ':' ≤ 8 := by
  have hrun : (zeroRun pieces).2 = 0 ∨ (zeroRun pieces).1 < 8 := zeroRun_lt
  simp only [ipv6Text]
  split
  · rw [count_pieces, h]
    omega
  · have hgap : "::".toList.count ':' = 2 := rfl
    simp only [String.toList_append, List.count_append, count_pieces, hgap, List.length_take, List.length_drop]
    omega

end Address

end MetricsGateway
