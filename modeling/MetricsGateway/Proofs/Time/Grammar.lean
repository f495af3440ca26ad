import Mathlib.Data.List.TakeWhile
import MetricsGateway.Proofs.Text.Case
import MetricsGateway.Proofs.Text.Stretches
import MetricsGateway.Time.DurationText

/-!
The texts that are durations: one or more parts, each a number and the name of a unit right behind it, or a
lone zero. Main statement: nothing else is read, and of these texts only those are refused that are out of
range.
-/

namespace MetricsGateway.Duration

open Text

variable {c : Char} {cs number name run rest tail : List Char} {total d : Duration} {raw : String}

/-! ## Numbers -/

/-- Digits with at most one point among them; at least one digit. -/
inductive Numeral : List Char → Prop where
  | whole {digits : List Char} (hne : digits ≠ []) (h : ∀ c ∈ digits, c.isDigit = true) : Numeral digits
  | pointed {whole fraction : List Char} (hne : whole ++ fraction ≠ [])
      (hwhole : ∀ c ∈ whole, c.isDigit = true) (hfraction : ∀ c ∈ fraction, c.isDigit = true) :
      Numeral (whole ++ '.' :: fraction)

theorem isNumberChar_of_isDigit (h : c.isDigit = true) : isNumberChar c = true := by
  rw [isNumberChar, h, Bool.true_or]

theorem eq_point (h : isNumberChar c = true) (hdigit : c.isDigit = false) : c = '.' := by
  rw [isNumberChar, hdigit, Bool.false_or] at h
  exact eq_of_beq h

theorem Numeral.chars (h : Numeral number) : ∀ c ∈ number, isNumberChar c = true := by
  cases h with
  | whole _ h => exact fun c hc => isNumberChar_of_isDigit (h c hc)
  | pointed _ hwhole hfraction =>
    intro c hc
    obtain hc | hc := List.mem_append.mp hc
    · exact isNumberChar_of_isDigit (hwhole c hc)
    · obtain rfl | hc := List.mem_cons.mp hc
      · rfl
      · exact isNumberChar_of_isDigit (hfraction c hc)

theorem Numeral.ne_nil (h : Numeral number) : number ≠ [] := by
  cases h with
  | whole hne _ => exact hne
  | pointed => exact List.append_ne_nil_of_right_ne_nil _ (List.cons_ne_nil _ _)

theorem Numeral.count_point_le (h : Numeral number) : number.count '.' ≤ 1 := by
  have hnone {digits : List Char} (h : ∀ c ∈ digits, c.isDigit = true) : digits.count '.' = 0 :=
    List.count_eq_zero.mpr fun hm => absurd (h '.' hm) (by decide)
  cases h with
  | whole _ h =>
    rw [hnone h]
    exact Nat.zero_le 1
  | pointed _ hwhole hfraction =>
    rw [List.count_append, List.count_cons_self, hnone hwhole, hnone hfraction]

theorem Numeral.readDecimal (h : Numeral number) : (Number.readDecimal number).isSome = true := by
  cases h with
  | whole hne h =>
    have htake : number.takeWhile Char.isDigit = number := List.takeWhile_eq_self_iff.mpr h
    have hdrop : number.dropWhile Char.isDigit = [] := List.dropWhile_eq_nil_iff.mpr h
    simp [Number.readDecimal, htake, hdrop, hne]
  | @pointed whole fraction hne hwhole hfraction =>
    have htake : (whole ++ '.' :: fraction).takeWhile Char.isDigit = whole :=
      takeWhile_left hwhole (by simp)
    have hdrop : (whole ++ '.' :: fraction).dropWhile Char.isDigit = '.' :: fraction :=
      dropWhile_left hwhole (by simp)
    have htake' : fraction.takeWhile Char.isDigit = fraction := List.takeWhile_eq_self_iff.mpr hfraction
    have hdrop' : fraction.dropWhile Char.isDigit = [] := List.dropWhile_eq_nil_iff.mpr hfraction
    have hsome : whole = [] → fraction ≠ [] := fun hwhole hfraction => hne (by rw [hwhole, hfraction]; rfl)
    simpa [Number.readDecimal, htake, hdrop, htake', hdrop'] using hsome

/-- Of digits and points only numbers are read as decimals. -/
theorem numeral_of_readDecimal (hchars : ∀ c ∈ number, isNumberChar c = true)
    (h : (Number.readDecimal number).isSome = true) : Numeral number := by
  have hdigits (cs : List Char) : ∀ c ∈ cs.takeWhile Char.isDigit, c.isDigit = true :=
    List.all_eq_true.mp List.all_takeWhile
  have hcut : number.takeWhile Char.isDigit ++ number.dropWhile Char.isDigit = number :=
    List.takeWhile_append_dropWhile
  -- what stands behind digits is a point, here and behind the fraction
  have hpoint {more : List Char} (hsub : ∀ c ∈ more, c ∈ number) {c : Char} {rest : List Char}
      (hrest : more.dropWhile Char.isDigit = c :: rest) : c = '.' := by
    have hm : c ∈ more := (List.dropWhile_suffix _).subset (hrest ▸ List.mem_cons_self)
    exact eq_point (hchars c (hsub c hm)) (by simpa [hrest] using List.head?_dropWhile_not Char.isDigit more)
  cases hrest : number.dropWhile Char.isDigit with
  | nil =>
    rw [hrest, List.append_nil] at hcut
    refine .whole (fun hnil => ?_) (hcut ▸ hdigits number)
    subst hnil
    cases h
  | cons c fraction =>
    obtain rfl := hpoint (fun c hc => hc) hrest
    have hsub : ∀ c ∈ fraction, c ∈ number := by
      intro c hc
      rw [← hcut, hrest]
      exact List.mem_append_right _ (List.mem_cons_of_mem _ hc)
    rw [← hcut, hrest]
    cases hend : fraction.dropWhile Char.isDigit with
    | nil =>
      have hall : fraction.takeWhile Char.isDigit = fraction := by
        simpa [hend] using List.takeWhile_append_dropWhile (p := Char.isDigit) (l := fraction)
      refine .pointed (fun hnil => ?_) (hdigits number) (hall ▸ hdigits fraction)
      obtain ⟨hwhole, rfl⟩ := List.append_eq_nil_iff.mp hnil
      simp [Number.readDecimal, hrest, hwhole] at h
    | cons e more =>
      obtain rfl := hpoint hsub hend
      simp [Number.readDecimal, hrest, hend] at h

theorem readDecimal_isSome_iff (hchars : ∀ c ∈ number, isNumberChar c = true) :
    (Number.readDecimal number).isSome = true ↔ Numeral number :=
  ⟨numeral_of_readDecimal hchars, Numeral.readDecimal⟩

theorem lt_of_isNumberChar (h : isNumberChar c = true) : c.toNat < 0x41 := by
  by_cases hdigit : c.isDigit = true
  · have hle : c.toNat ≤ 0x39 := (Char.isDigit_iff_toNat.mp hdigit).2
    omega
  · rw [eq_point h (Bool.eq_false_iff.mpr hdigit)]
    decide

/-- No word begins with a digit or a point. -/
theorem isWord_eq_false (hc : isNumberChar c = true) {word : String} {first : Char} {more : List Char}
    (hword : word.toList = first :: more) (hfirst : isNumberChar first = false) :
    Number.isWord word (c :: tail) = false := by
  rw [Number.isWord, hword, beq_eq_false_iff_ne]
  intro h
  have hlower : c.toLower = first := (List.cons.inj h).1
  have hlt : c.toNat < 0x41 := lt_of_isNumberChar hc
  obtain hsame | ⟨hle, -, -⟩ := toLower_cases c
  · rw [← hlower, hsame, hc] at hfirst
    cases hfirst
  · omega

/-- Digits and points are read as a number exactly if they are one. -/
theorem exists_readFloat_iff (hne : number ≠ []) (hchars : ∀ c ∈ number, isNumberChar c = true) :
    (∃ x, Number.readFloat number = .ok x) ↔ Numeral number := by
  obtain ⟨c, tail, rfl⟩ := List.exists_cons_of_ne_nil hne
  have hc : isNumberChar c = true := hchars c List.mem_cons_self
  have hinf : Number.isWord "inf" (c :: tail) = false := isWord_eq_false hc rfl rfl
  have hinfinity : Number.isWord "infinity" (c :: tail) = false := isWord_eq_false hc rfl rfl
  have hnan : Number.isWord "nan" (c :: tail) = false := isWord_eq_false hc rfl rfl
  rw [← readDecimal_isSome_iff hchars]
  simp only [Number.readFloat, List.isEmpty_cons, Bool.false_eq_true, if_false]
  split
  -- neither sign is a digit or a point
  · next heq =>
    obtain rfl := (List.cons.inj heq).1
    cases hc
  · next heq =>
    obtain rfl := (List.cons.inj heq).1
    cases hc
  · simp only [hinf, hinfinity, hnan, Bool.or_self, Bool.false_eq_true, if_false]
    cases Number.readDecimal (c :: tail) with
    | none => simp
    | some decimal => simp

/-! ## Parts -/

/-- The names of the units. -/
def unitNames : List (List Char) := [['n', 's'], ['u', 's'], ['µ', 's'], ['m', 's'], ['s'], ['m'], ['h']]

theorem chars_of_unitNames :
    ∀ name ∈ unitNames, name ≠ [] ∧ ∀ c ∈ name, isNumberChar c = false := by
  have hall : (unitNames.all fun name => !name.isEmpty && name.all (!isNumberChar ·)) = true := by decide
  simpa using hall

/-- A number ends where the name of a unit begins. -/
theorem head_of_unitNames (hname : name ∈ unitNames) : ∀ c ∈ (name ++ rest).head?, isNumberChar c = false := by
  obtain ⟨hne, hchars⟩ := chars_of_unitNames name hname
  obtain ⟨c, tail, rfl⟩ := List.exists_cons_of_ne_nil hne
  rintro c ⟨⟩
  exact hchars c List.mem_cons_self

theorem isSome_ofName?_iff : (TimeUnit.ofName? name).isSome = true ↔ name ∈ unitNames := by
  constructor
  · intro h
    by_contra hno
    simp only [unitNames, List.mem_cons, List.not_mem_nil, or_false, not_or] at hno
    simp [TimeUnit.ofName?, hno] at h
  · revert name
    decide

/-- Parts one after another, each a number and the name of a unit right behind it. -/
inductive Parts : List Char → Prop where
  | nil : Parts []
  | cons {number name rest : List Char} (hnumber : Numeral number) (hname : name ∈ unitNames)
      (hrest : Parts rest) : Parts (number ++ name ++ rest)

/-- A text that is one part or more. -/
def Written (cs : List Char) : Prop := cs ≠ [] ∧ Parts cs

theorem Parts.head (h : Parts cs) : ∀ c ∈ cs.head?, isNumberChar c = true := by
  cases h with
  | nil => exact nofun
  | @cons number name rest hnumber hname hrest =>
    obtain ⟨c, tail, rfl⟩ := List.exists_cons_of_ne_nil hnumber.ne_nil
    rintro c ⟨⟩
    exact hnumber.chars c List.mem_cons_self

theorem splitPart_append (hnumber : Numeral number) (hname : name ∈ unitNames)
    (hrest : ∀ c ∈ rest.head?, isNumberChar c = true) :
    splitPart (number ++ name ++ rest) = (number, name, rest) := by
  have hstop : ∀ c ∈ (name ++ rest).head?, isNumberChar c = false := head_of_unitNames hname
  have hall : ∀ c ∈ name, (!isNumberChar c) = true := by
    intro c hc
    rw [(chars_of_unitNames name hname).2 c hc, Bool.not_false]
  have hend : ∀ c ∈ rest.head?, (!isNumberChar c) = false := by
    intro c hc
    rw [hrest c hc, Bool.not_true]
  rw [splitPart, List.append_assoc, takeWhile_left hnumber.chars hstop, dropWhile_left hnumber.chars hstop,
    takeWhile_left hall hend, dropWhile_left hall hend]

theorem splitPart_cut (cs : List Char) : (splitPart cs).1 ++ (splitPart cs).2.1 ++ (splitPart cs).2.2 = cs := by
  rw [splitPart, List.append_assoc, List.takeWhile_append_dropWhile, List.takeWhile_append_dropWhile]

/-- A part has a length only if it is a number and a unit. -/
theorem of_partLength (hchars : ∀ c ∈ number, isNumberChar c = true) (h : partLength number name = .ok d) :
    Numeral number ∧ name ∈ unitNames := by
  unfold partLength at h
  split at h
  · cases h
  · cases h
  · next value hne hread =>
    split at h
    · cases h
    · split at h
      · cases h
      · next unit hunit =>
        refine ⟨(exists_readFloat_iff (fun hnil => hne hnil) hchars).mp ⟨value, hread⟩, ?_⟩
        rw [← isSome_ofName?_iff, hunit]
        rfl

/-- A number and a unit have a length, unless they are out of range. -/
theorem partLength_of_numeral (hnumber : Numeral number) (hname : name ∈ unitNames) :
    (∃ length, partLength number name = .ok length) ∨ partLength number name = .error .outOfRange := by
  obtain ⟨value, hread⟩ := (exists_readFloat_iff hnumber.ne_nil hnumber.chars).mpr hnumber
  obtain ⟨unit, hunit⟩ := Option.isSome_iff_exists.mp (isSome_ofName?_iff.mpr hname)
  have hne := (chars_of_unitNames name hname).1
  unfold partLength
  split
  · exact absurd rfl hnumber.ne_nil
  · next hfail =>
    rw [hread] at hfail
    cases hfail
  · rw [if_neg hne, hunit]
    simp only
    split
    · exact .inr rfl
    · exact .inl ⟨_, rfl⟩

/-! ## Reading -/

theorem parts_of_addParts (h : addParts total cs = .ok d) : Parts cs := by
  fun_induction addParts total cs with
  | case1 total => exact .nil
  | case2 total cs hne e hpart => cases h
  | case3 total cs hne length hpart hadd => cases h
  | case4 total cs hne length hpart total' hadd ih =>
    have hchars : ∀ c ∈ (splitPart cs).1, isNumberChar c = true := List.all_eq_true.mp List.all_takeWhile
    obtain ⟨hnumber, hname⟩ := of_partLength hchars hpart
    rw [← splitPart_cut cs]
    exact .cons hnumber hname (ih h)

/-- Parts are added to any duration, unless they are out of range. -/
theorem addParts_of_parts (h : Parts cs) (total : Duration) :
    (∃ d, addParts total cs = .ok d) ∨ addParts total cs = .error .outOfRange := by
  induction h generalizing total with
  | nil =>
    rw [addParts, dif_pos rfl]
    exact .inl ⟨total, rfl⟩
  | @cons number name rest hnumber hname hrest ih =>
    have hne : number ++ name ++ rest ≠ [] := by
      simp [hnumber.ne_nil]
    rw [addParts, dif_neg hne, splitPart_append hnumber hname hrest.head]
    obtain ⟨length, hlength⟩ | hlength := partLength_of_numeral hnumber hname
    · simp only [hlength]
      split
      · exact .inr rfl
      · next total' hadd => exact ih total'
    · simp only [hlength]
      exact .inr trivial

theorem written_of_read (h : read raw = .ok d) : trimmed raw.toList = ['0'] ∨ Written (trimmed raw.toList) := by
  simp only [read] at h
  split at h
  · next hzero => exact .inl hzero
  · cases h
  · cases h
  · next hne _ => exact .inr ⟨hne, parts_of_addParts h⟩

theorem read_of_written (h : trimmed raw.toList = ['0'] ∨ Written (trimmed raw.toList)) :
    (∃ d, read raw = .ok d) ∨ read raw = .error .outOfRange := by
  obtain h | ⟨hne, hparts⟩ := h
  · simp only [read, h]
    exact .inl ⟨zero, rfl⟩
  · simp only [read]
    split
    · exact .inl ⟨zero, rfl⟩
    · next hnil => exact absurd hnil hne
    · next tail heq =>
      -- no part begins with a sign
      rw [heq] at hparts
      exact absurd (hparts.head '-' rfl) (by decide)
    · exact addParts_of_parts hparts zero

/-! ## What is refused -/

theorem Parts.stretches (h : Parts cs) :
    ∀ run ∈ stretches isNumberChar cs, Numeral run ∨ run ∈ unitNames := by
  induction h with
  | nil => exact nofun
  | @cons number name rest hnumber hname hrest ih =>
    obtain ⟨hne, hchars⟩ := chars_of_unitNames name hname
    rw [List.append_assoc, stretches_append hnumber.ne_nil hnumber.chars (head_of_unitNames hname),
      stretches_append hne hchars hrest.head]
    intro run hrun
    obtain rfl | hrun := List.mem_cons.mp hrun
    · exact .inl hnumber
    · obtain rfl | hrun := List.mem_cons.mp hrun
      · exact .inr hname
      · exact ih run hrun

theorem Parts.last (h : Parts cs) : ∀ c ∈ cs.getLast?, isNumberChar c = false := by
  induction h with
  | nil => exact nofun
  | @cons number name rest hnumber hname hrest ih =>
    obtain ⟨hne, hchars⟩ := chars_of_unitNames name hname
    intro c hc
    rw [List.getLast?_append] at hc
    cases hlast : rest.getLast? with
    | some last =>
      rw [hlast] at hc
      exact ih c (hlast.trans hc)
    | none =>
      rw [hlast, Option.none_or, List.getLast?_append_of_ne_nil _ hne] at hc
      exact hchars c (List.mem_of_getLast? hc)

theorem plain_of_isNumberChar (h : isNumberChar c = true) : c ≠ '+' ∧ c ≠ '-' ∧ isSpace c = false := by
  have hrange : 0x2E ≤ c.toNat ∧ c.toNat ≤ 0x39 := by
    by_cases hdigit : c.isDigit = true
    · have hlow : 0x30 ≤ c.toNat := (Char.isDigit_iff_toNat.mp hdigit).1
      have hhigh : c.toNat ≤ 0x39 := (Char.isDigit_iff_toNat.mp hdigit).2
      omega
    · rw [eq_point h (Bool.eq_false_iff.mpr hdigit)]
      decide
  refine ⟨?_, ?_, ?_⟩
  · rintro rfl
    cases h
  · rintro rfl
    cases h
  · simp only [isSpace, Bool.or_eq_false_iff, Bool.and_eq_false_iff, decide_eq_false_iff_not,
      beq_eq_false_iff_ne]
    omega

theorem plain_of_unitNames :
    ∀ name ∈ unitNames, ∀ c ∈ name, c ≠ '+' ∧ c ≠ '-' ∧ isSpace c = false := by
  have hall : (unitNames.all (·.all fun c => c != '+' && c != '-' && !isSpace c)) = true := by decide
  simpa [and_assoc] using hall

theorem Parts.plain (h : Parts cs) : ∀ c ∈ cs, c ≠ '+' ∧ c ≠ '-' ∧ isSpace c = false := by
  induction h with
  | nil => exact nofun
  | @cons number name rest hnumber hname hrest ih =>
    intro c hc
    rw [List.mem_append, List.mem_append] at hc
    obtain (hc | hc) | hc := hc
    · exact plain_of_isNumberChar (hnumber.chars c hc)
    · exact plain_of_unitNames name hname c hc
    · exact ih c hc

/-- Faults in the form of a duration, wherever they stand in it. -/
inductive Malformed (cs : List Char) : Prop where
  | sign (h : '+' ∈ cs ∨ '-' ∈ cs)
  | space {c : Char} (hc : c ∈ cs) (h : isSpace c = true)
  /-- Nothing stands behind the last number, which may be the whole text. -/
  | missingUnit (hzero : cs ≠ ['0']) {c : Char} (hlast : cs.getLast? = some c) (h : isNumberChar c = true)
  | unknownUnit {name : List Char} (hrun : name ∈ stretches isNumberChar cs)
      (hname : ∀ c ∈ name, isNumberChar c = false) (h : name ∉ unitNames)
  | points {number : List Char} (hrun : number ∈ stretches isNumberChar cs) (h : 2 ≤ number.count '.')

theorem Malformed.not_parts (h : Malformed cs) : ¬ Parts cs := by
  intro hparts
  cases h with
  | sign h =>
    obtain hplus | hminus := h
    · exact (hparts.plain '+' hplus).1 rfl
    · exact (hparts.plain '-' hminus).2.1 rfl
  | space hc h => exact absurd h (Bool.eq_false_iff.mp (hparts.plain _ hc).2.2)
  | missingUnit hzero hlast h => exact absurd h (Bool.eq_false_iff.mp (hparts.last _ hlast))
  | unknownUnit hrun hname h =>
    obtain hnumber | hunit := hparts.stretches _ hrun
    · obtain ⟨c, tail, rfl⟩ := List.exists_cons_of_ne_nil hnumber.ne_nil
      exact absurd (hnumber.chars c List.mem_cons_self) (Bool.eq_false_iff.mp (hname c List.mem_cons_self))
    · exact h hunit
  | @points number hrun h =>
    obtain hnumber | hunit := hparts.stretches _ hrun
    · exact absurd hnumber.count_point_le (Nat.not_le_of_lt h)
    · have hnone : number.count '.' = 0 := List.count_eq_zero.mpr fun hm =>
        absurd ((chars_of_unitNames number hunit).2 '.' hm) (by decide)
      omega

theorem Malformed.ne_zero (h : Malformed cs) : cs ≠ ['0'] := by
  rintro rfl
  have hrun {run : List Char} (hm : run ∈ Text.stretches isNumberChar ['0']) : run = ['0'] :=
    List.mem_singleton.mp hm
  cases h with
  | sign h => exact absurd h (by decide)
  | space hc h =>
    obtain rfl := List.mem_singleton.mp hc
    exact absurd h (by decide)
  | missingUnit hzero hlast h => exact hzero rfl
  | unknownUnit hm hname h =>
    obtain rfl := hrun hm
    exact absurd (hname '0' List.mem_cons_self) (by decide)
  | points hm h =>
    obtain rfl := hrun hm
    exact absurd h (by decide)

/-- Only a lone zero and parts put together are read as durations, white space around them left out. They are
read, unless they are out of range, and what is malformed anywhere is not. -/
theorem read_accepts_written (raw : String) :
    (∀ d, read raw = .ok d → trimmed raw.toList = ['0'] ∨ Written (trimmed raw.toList)) ∧
    (trimmed raw.toList = ['0'] ∨ Written (trimmed raw.toList) →
      (∃ d, read raw = .ok d) ∨ read raw = .error .outOfRange) ∧
    (Malformed (trimmed raw.toList) → ∃ e, read raw = .error e) := by
  refine ⟨fun d => written_of_read, read_of_written, fun hmalformed => ?_⟩
  cases h : read raw with
  | error e => exact ⟨e, rfl⟩
  | ok d =>
    obtain hzero | ⟨-, hparts⟩ := written_of_read h
    · exact absurd hzero hmalformed.ne_zero
    · exact absurd hparts hmalformed.not_parts

end MetricsGateway.Duration
