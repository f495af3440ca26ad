import MetricsGateway.Text.Composition

/-!
Text in ASCII is composed as it stands: none of its characters is a mark, none is made of two others, and none
joins the letter before it.
-/

namespace MetricsGateway.Text

variable {cs : List Char} {lines : List String} {c letter : Char}

theorem TableWord.read_cons : TableWord.read (String.ofList cs :: lines) =
    TableWord.readLine cs ++ TableWord.read lines := by
  rw [TableWord.read, List.flatMap_cons, String.toList_ofList, TableWord.read]

namespace Composition

/-! ## The tables -/

/-- A word that writes no pair with a whole or a mark in ASCII. -/
def beyondAscii (w : TableWord) : Bool :=
  match w.numbers with
  | [a, _, c] => 0x80 ≤ (Char.ofNat a).toNat && 0x80 ≤ (Char.ofNat c).toNat
  | _ => true

theorem beyondAscii_cons (hline : (TableWord.readLine cs).all beyondAscii = true)
    (hlines : (TableWord.read lines).all beyondAscii = true) :
    (TableWord.read (String.ofList cs :: lines)).all beyondAscii = true := by
  rw [TableWord.read_cons, List.all_append, hline, hlines]
  rfl

/-- Checked line by line, each as a list of characters. -/
theorem beyondAscii_compositionTable : (TableWord.read compositionTable).all beyondAscii = true := by
  unfold compositionTable
  repeat refine beyondAscii_cons (by decide +kernel) ?_
  rfl

theorem ascii_lt_of_pairs : ∀ p ∈ pairs, 0x80 ≤ p.whole.toNat ∧ 0x80 ≤ p.second.toNat := by
  intro p hp
  obtain ⟨w, hw, hpair⟩ := List.mem_filterMap.mp hp
  have hbeyond : beyondAscii w = true := List.all_eq_true.mp beyondAscii_compositionTable w hw
  rw [beyondAscii] at hbeyond
  split at hpair
  · next a b c hnumbers =>
    rw [hnumbers] at hbeyond
    rw [← Option.some.inj hpair]
    simpa using hbeyond
  · cases hpair

/-- The first run of the table of marks, which no mark is in. -/
theorem exists_classRuns : ∃ runs, classRuns = ⟨0x300, 0⟩ :: runs := by
  have hread : ∃ words, TableWord.read markClassTable = ⟨'k', [0, 0x300]⟩ :: words := by
    unfold markClassTable
    rw [TableWord.read_cons]
    exact ⟨_, rfl⟩
  obtain ⟨words, hwords⟩ := hread
  exact ⟨_, by rw [classRuns, hwords]; rfl⟩

theorem classOf_of_ascii (h : c.toNat < 0x80) : classOf c = 0 := by
  obtain ⟨runs, hruns⟩ := exists_classRuns
  rw [classOf, hruns, runAt?, if_pos (by change c.toNat < 0x300; omega)]
  rfl

/-! ## Texts -/

-- the table is too long for the equation that `rw` would look for
theorem parts_succ (n : Nat) (c : Char) : parts (n + 1) c =
    match syllableParts? c with
    | some cs => cs
    | none =>
      match pairs.find? (·.whole = c) with
      | some p => parts n p.first ++ [p.second]
      | none => [c] := by with_unfolding_all rfl

theorem parts_of_ascii (h : c.toNat < 0x80) (n : Nat) : parts n c = [c] := by
  cases n with
  | zero => rfl
  | succ n =>
    have hbase : decide (syllableBase ≤ c.toNat) = false := by
      rw [decide_eq_false_iff_not, syllableBase]
      omega
    have hsyllable : syllableParts? c = none := by
      simp only [syllableParts?.eq_def, hbase, Bool.false_and, Bool.false_eq_true, if_false]
    have hpair : pairs.find? (·.whole = c) = none := by
      rw [List.find?_eq_none]
      rintro p hp
      have hwhole := (ascii_lt_of_pairs p hp).1
      rw [decide_eq_true_eq]
      rintro rfl
      omega
    rw [parts_succ, hsyllable, hpair]

theorem whole?_of_ascii (hletter : letter.toNat < 0x80) (h : c.toNat < 0x80) : whole? letter c = none := by
  have hlead : decide (leadBase ≤ letter.toNat) = false :=
    decide_eq_false (by change ¬ 0x1100 ≤ letter.toNat; omega)
  have hbase : decide (syllableBase ≤ letter.toNat) = false :=
    decide_eq_false (by change ¬ 0xAC00 ≤ letter.toNat; omega)
  have hsyllable : syllable? letter c = none := by
    rw [syllable?, hlead, hbase]
    rfl
  have hpair : pairs.find? (fun p => p.first = letter && p.second = c) = none := by
    rw [List.find?_eq_none]
    rintro p hp
    have hsecond := (ascii_lt_of_pairs p hp).2
    rw [Bool.and_eq_true, decide_eq_true_eq, decide_eq_true_eq]
    rintro ⟨-, rfl⟩
    omega
  rw [whole?, hsyllable, hpair]
  rfl

theorem insertMark_of_ascii (h : ∀ d ∈ cs, d.toNat < 0x80) : insertMark c cs = c :: cs := by
  cases cs with
  | nil => rfl
  | cons d cs =>
    rw [insertMark, classOf_of_ascii (h d List.mem_cons_self)]
    rfl

theorem decomposed_of_ascii (h : ∀ c ∈ cs, c.toNat < 0x80) : decomposed cs = cs := by
  have hparts : cs.flatMap (parts depth) = cs := by
    have hsame : cs.map (parts depth) = cs.map ([·]) :=
      List.map_congr_left fun c hc => parts_of_ascii (h c hc) depth
    rw [List.flatMap, hsame, ← List.flatMap_def]
    exact List.flatMap_singleton' cs
  rw [decomposed, hparts]
  clear hparts
  induction cs with
  | nil => rfl
  | cons c cs ih =>
    have hcs : ∀ d ∈ cs, d.toNat < 0x80 := fun d hd => h d (List.mem_cons_of_mem c hd)
    rw [List.foldr_cons, ih hcs, insertMark_of_ascii hcs]

theorem composeFrom_of_ascii (hletter : letter.toNat < 0x80) (h : ∀ c ∈ cs, c.toNat < 0x80) :
    composeFrom letter [] 0 cs = letter :: cs := by
  induction cs generalizing letter with
  | nil => rfl
  | cons c cs ih =>
    have hc : c.toNat < 0x80 := h c List.mem_cons_self
    have hrest : composeFrom c [] 0 cs = c :: cs := ih hc fun d hd => h d (List.mem_cons_of_mem c hd)
    simp only [composeFrom, whole?_of_ascii hletter hc, classOf_of_ascii hc, hrest]
    rfl

theorem composed_of_ascii (h : ∀ c ∈ cs, c.toNat < 0x80) : composed cs = cs := by
  rw [composed, decomposed_of_ascii h]
  cases cs with
  | nil => rfl
  | cons c cs =>
    exact composeFrom_of_ascii (h c List.mem_cons_self) fun d hd => h d (List.mem_cons_of_mem c hd)

end Composition

end MetricsGateway.Text
