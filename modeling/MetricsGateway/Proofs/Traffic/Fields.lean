import MetricsGateway.Traffic.Header

/-!
Fields by name: what the first value of a name is after fields have been added or taken out.
-/

namespace MetricsGateway.Headers

variable {hs more : Headers} {name other : String}

theorem isSome_get? : (get? hs name).isSome = has hs name := by
  rw [get?, Option.isSome_map, List.isSome_find?, has]

theorem get?_eq_none_iff : get? hs name = none ↔ has hs name = false := by
  rw [← isSome_get?, Option.isSome_eq_false_iff, Option.isNone_iff_eq_none]

theorem get?_append : get? (hs ++ more) name = (get? hs name).or (get? more name) := by
  rw [get?, List.find?_append, Option.map_or, get?, get?]

theorem get?_single {value : Bytes} :
    get? [⟨other, value⟩] name = if other = name then some value else none := by
  rw [get?, List.find?_singleton]
  split <;> simp_all

/-- Names are kept or taken out as a whole. -/
theorem get?_filter (keep : String → Bool) : get? (hs.filter fun h => keep h.name) name =
    if keep name then get? hs name else none := by
  have hsame (h : HeaderField) : decide (keep h.name = true ∧ (h.name == name) = true) =
      (keep name && h.name == name) := by
    by_cases hname : h.name = name <;> simp [hname]
  simp only [get?, List.find?_filter, hsame]
  cases keep name <;> simp

theorem get?_without (h : name ≠ other) : get? (without hs other) name = get? hs name := by
  rw [without, get?_filter (· != other), if_pos (bne_iff_ne.mpr h)]

theorem get?_stripHopByHop : get? (stripHopByHop hs) name =
    if name ∈ listedByConnection hs ∨ name ∈ hopByHop then none else get? hs name := by
  rw [stripHopByHop, get?_filter fun n => !(listedByConnection hs).contains n && !hopByHop.contains n]
  by_cases hlisted : name ∈ listedByConnection hs
  · simp [hlisted]
  · simp [hlisted, ite_not]

/-- A field of another name lists nothing. -/
theorem listedByConnection_append {value : Bytes} (h : other ≠ "connection") :
    listedByConnection (hs ++ [⟨other, value⟩]) = listedByConnection hs := by
  have hvalues : values (hs ++ [⟨other, value⟩]) "connection" = values hs "connection" := by
    rw [values, List.filter_append, List.filter_cons_of_neg (by simpa using h), List.filter_nil,
      List.append_nil, values]
  rw [listedByConnection, hvalues, listedByConnection]

end MetricsGateway.Headers
