import Mathlib.Algebra.BigOperators.Group.List.Basic
import Mathlib.Algebra.GroupWithZero.Nat
import MetricsGateway.Proofs.Time.Grammar

/-!
Durations put together. The parts of a text are measured one by one, and the text is read as their sum. Main
statement: two texts that are durations make one that is as long as both, unless that is out of range, and the
order of the parts makes no difference.
-/

namespace MetricsGateway.Duration

open Text

variable {a b raw : String} {cs : List Char} {total d x y : Duration} {n : Nat}

/-- A number and the name of a unit right behind it. -/
structure Part where
  number : List Char
  name : List Char
  numeral : Numeral number
  unit : name ∈ unitNames

/-- The text of parts one after another. -/
def joined (parts : List Part) : List Char := parts.flatMap fun p => p.number ++ p.name

/-- How many nanoseconds a part is long. One that is longer than any duration is out of range, whatever it is
added to. -/
def Part.nanos (p : Part) : Nat :=
  match partLength p.number p.name with
  | .ok length => length.nanos
  | .error _ => limit

/-- What is read for so many nanoseconds. -/
def within (n : Nat) : Except DurationError Duration :=
  if h : n < limit then .ok ⟨n, h⟩ else .error .outOfRange

variable {p : Part} {parts parts' : List Part}

theorem within_of_lt (h : n < limit) : within n = .ok ⟨n, h⟩ := dif_pos h

theorem within_of_le (h : limit ≤ n) : within n = .error .outOfRange := dif_neg (Nat.not_lt.mpr h)

theorem within_nanos (d : Duration) : within d.nanos = .ok d := within_of_lt d.nanos_lt

theorem nanos_of_within (h : within n = .ok d) : d.nanos = n := by
  unfold within at h
  split at h
  · cases h
    rfl
  · cases h

/-! ## Parts and their text -/

theorem parts_joined : ∀ parts, Parts (joined parts)
  | [] => .nil
  | p :: parts => .cons p.numeral p.unit (parts_joined parts)

theorem exists_joined (h : Parts cs) : ∃ parts, joined parts = cs := by
  induction h with
  | nil => exact ⟨[], rfl⟩
  | @cons number name rest hnumber hname hrest ih =>
    obtain ⟨parts, rfl⟩ := ih
    exact ⟨⟨number, name, hnumber, hname⟩ :: parts, rfl⟩

theorem joined_append : joined (parts ++ parts') = joined parts ++ joined parts' :=
  List.flatMap_append

theorem joined_eq_nil_iff : joined parts = [] ↔ parts = [] := by
  cases parts with
  | nil => exact iff_of_true rfl rfl
  | cons p parts =>
    refine iff_of_false (fun h => ?_) (List.cons_ne_nil p parts)
    exact p.numeral.ne_nil (List.append_eq_nil_iff.mp (List.append_eq_nil_iff.mp h).1).1

theorem trimmed_of_plain (h : ∀ c ∈ cs, isSpace c = false) : trimmed cs = cs := by
  have hdrop {cs : List Char} (h : ∀ c ∈ cs, isSpace c = false) : cs.dropWhile isSpace = cs :=
    List.dropWhile_eq_self_iff.mpr fun hlen => by simp [h _ (List.getElem_mem hlen)]
  rw [trimmed, hdrop h, hdrop fun c hc => h c (List.mem_reverse.mp hc), List.reverse_reverse]

theorem trimmed_joined : trimmed (joined parts) = joined parts :=
  trimmed_of_plain fun c hc => ((parts_joined parts).plain c hc).2.2

/-! ## Reading -/

/-- A part that is out of range is so with whatever it is added to. -/
theorem addParts_cons : addParts total (joined (p :: parts)) =
    match within (total.nanos + p.nanos) with
    | .ok total => addParts total (joined parts)
    | .error e => .error e := by
  have hjoined : joined (p :: parts) = p.number ++ p.name ++ joined parts := rfl
  have hne : p.number ++ p.name ++ joined parts ≠ [] := by simp [p.numeral.ne_nil]
  rw [hjoined, addParts, dif_neg hne, splitPart_append p.numeral p.unit (parts_joined parts).head]
  obtain ⟨length, hlength⟩ | hlength := partLength_of_numeral p.numeral p.unit
  · have hnanos : p.nanos = length.nanos := by simp only [Part.nanos, hlength]
    rw [hlength, hnanos]
    obtain hlt | hle := Nat.lt_or_ge (total.nanos + length.nanos) limit
    · have hadd : total.add? length = some ⟨total.nanos + length.nanos, hlt⟩ := dif_pos hlt
      simp only [hadd, within_of_lt hlt]
    · have hadd : total.add? length = none := dif_neg (Nat.not_lt.mpr hle)
      simp only [hadd, within_of_le hle]
  · have hnanos : p.nanos = limit := by simp only [Part.nanos, hlength]
    rw [hlength, hnanos, within_of_le (Nat.le_add_left limit total.nanos)]

/-- The lengths of all parts are added, each measured by itself. -/
theorem addParts_joined (parts : List Part) (total : Duration) :
    addParts total (joined parts) = within (total.nanos + (parts.map Part.nanos).sum) := by
  induction parts generalizing total with
  | nil =>
    rw [joined, List.flatMap_nil, addParts, dif_pos rfl]
    exact (within_nanos total).symm
  | cons p parts ih =>
    rw [addParts_cons, List.map_cons, List.sum_cons, ← Nat.add_assoc]
    obtain hlt | hle := Nat.lt_or_ge (total.nanos + p.nanos) limit
    · rw [within_of_lt hlt]
      exact ih ⟨total.nanos + p.nanos, hlt⟩
    · rw [within_of_le hle, within_of_le (Nat.le_add_right_of_le hle)]

theorem read_joined (h : raw.toList = joined parts) (hne : parts ≠ []) :
    read raw = within (parts.map Part.nanos).sum := by
  have hparts : Parts (joined parts) := parts_joined parts
  have htext : joined parts ≠ [] := mt joined_eq_nil_iff.mp hne
  have hsum := addParts_joined parts zero
  rw [show zero.nanos = 0 from rfl, Nat.zero_add] at hsum
  simp only [read, h, trimmed_joined]
  split
  · next hzero =>
    -- a zero by itself has no unit, so that it is not made of parts
    exact absurd (hparts.last '0' (by rw [hzero]; rfl)) (by decide)
  · next hnil => exact absurd hnil htext
  · next tail hminus => exact absurd (hparts.head '-' (by rw [hminus]; rfl)) (by decide)
  · exact hsum

/-- What is read as a duration is made of parts, unless it is a lone zero. -/
theorem joined_of_read (htrim : trimmed a.toList = a.toList) (hzero : a ≠ "0") (h : read a = .ok x) :
    ∃ parts, parts ≠ [] ∧ a.toList = joined parts ∧ x.nanos = (parts.map Part.nanos).sum := by
  have hwritten := written_of_read h
  rw [htrim] at hwritten
  obtain hlone | ⟨hne, hparts⟩ := hwritten
  · exact absurd (String.toList_inj.mp hlone) hzero
  · obtain ⟨parts, hjoined⟩ := exists_joined hparts
    have hparts : parts ≠ [] := fun hnil => hne (hjoined ▸ joined_eq_nil_iff.mpr hnil)
    rw [read_joined hjoined.symm hparts] at h
    exact ⟨parts, hparts, hjoined.symm, nanos_of_within h⟩

theorem read_append (ha : a.toList = joined parts) (hb : b.toList = joined parts') (hne : parts ≠ []) :
    read (a ++ b) = within ((parts.map Part.nanos).sum + (parts'.map Part.nanos).sum) := by
  have htext : (a ++ b).toList = joined (parts ++ parts') := by
    rw [String.toList_append, ha, hb, joined_append]
  rw [read_joined htext (List.append_ne_nil_of_left_ne_nil hne _), List.map_append, List.sum_append]

/-- The parts of a text can be put in any order. -/
theorem read_of_perm (h : parts.Perm parts') :
    read (String.ofList (joined parts)) = read (String.ofList (joined parts')) := by
  by_cases hnil : parts = []
  · subst hnil
    rw [List.nil_perm.mp h]
  · have hnil' : parts' ≠ [] := fun hnil' => hnil (List.perm_nil.mp (hnil' ▸ h))
    rw [read_joined String.toList_ofList hnil, read_joined String.toList_ofList hnil',
      (h.map Part.nanos).sum_eq]

/-- Two texts that are read as durations, neither of them a lone zero and both without white space around
them. Put together they are read as the sum of the two, or as out of range if that is, in either order and
never as less than one of them. Each is made of parts, and parts can be put in any order. -/
theorem read_append_eq_sum (ha : trimmed a.toList = a.toList) (hb : trimmed b.toList = b.toList)
    (hazero : a ≠ "0") (hbzero : b ≠ "0") (hx : read a = .ok x) (hy : read b = .ok y) :
    (∀ h : x.nanos + y.nanos < limit, read (a ++ b) = .ok ⟨x.nanos + y.nanos, h⟩) ∧
    (limit ≤ x.nanos + y.nanos → read (a ++ b) = .error .outOfRange) ∧
    read (b ++ a) = read (a ++ b) ∧
    (∀ d, read (a ++ b) = .ok d → x.nanos ≤ d.nanos ∧ y.nanos ≤ d.nanos) ∧
    (∃ parts, a.toList = joined parts) ∧
    ∀ parts parts', parts.Perm parts' →
      read (String.ofList (joined parts)) = read (String.ofList (joined parts')) := by
  obtain ⟨parts, hne, hparts, hxsum⟩ := joined_of_read ha hazero hx
  obtain ⟨parts', hne', hparts', hysum⟩ := joined_of_read hb hbzero hy
  have hab : read (a ++ b) = within (x.nanos + y.nanos) := by
    rw [read_append hparts hparts' hne, hxsum, hysum]
  have hba : read (b ++ a) = within (x.nanos + y.nanos) := by
    rw [read_append hparts' hparts hne', hxsum, hysum, Nat.add_comm]
  refine ⟨fun h => hab.trans (within_of_lt h), fun h => hab.trans (within_of_le h), hba.trans hab.symm, ?_,
    ⟨parts, hparts⟩, fun _ _ => read_of_perm⟩
  intro d hd
  have hsum : d.nanos = x.nanos + y.nanos := nanos_of_within (hab.symm.trans hd)
  omega

/-- One minute and thirty seconds. -/
def minuteAndHalf : List Part :=
  [⟨['1'], ['m'], .whole (by decide) (List.all_eq_true.mp (by decide)), by decide⟩,
    ⟨['3', '0'], ['s'], .whole (by decide) (List.all_eq_true.mp (by decide)), by decide⟩]

/-- The largest double below 2^64, in seconds. -/
def longest : List Part :=
  [⟨"18446744073709549568".toList, ['s'], .whole (by decide) (List.all_eq_true.mp (by decide)), by decide⟩]

theorem read_append_of_longest :
    read "1m30s18446744073709549568s" = .ok ⟨18446744073709549658000000000, by decide⟩ ∧
      read "18446744073709549568s18446744073709549568s" = .error .outOfRange := by
  have hshort : read "1m30s" = .ok ⟨90000000000, by decide⟩ := by
    have hparts : "1m30s".toList = joined minuteAndHalf := rfl
    rw [read_joined hparts (by decide)]
    exact within_of_lt (by decide)
  have hlong : read "18446744073709549568s" = .ok ⟨18446744073709549568000000000, by decide⟩ := by
    have hparts : "18446744073709549568s".toList = joined longest := rfl
    rw [read_joined hparts (by decide)]
    exact within_of_lt (by decide)
  exact ⟨(read_append_eq_sum rfl rfl (by decide) (by decide) hshort hlong).1 (by decide),
    (read_append_eq_sum rfl rfl (by decide) (by decide) hlong hlong).2.1 (by decide)⟩

end MetricsGateway.Duration
