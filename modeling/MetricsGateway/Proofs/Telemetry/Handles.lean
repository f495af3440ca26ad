import MetricsGateway.Proofs.Telemetry.Holds

/-!
Spans in the hands of a program. Main statement: what a program has of a span and its open children hold it
open, so that a parent stays open until its children have ended, and each span ends once.
-/

namespace MetricsGateway

/-- The program lets go of a span. -/
def SpanMove.letsGo : SpanMove → Bool
  | leave _ => true
  | drop _ => true
  | _ => false

namespace SpanHandles

open SpanForest

variable {s s' : SpanHandles} {m : SpanMove} {now i : Nat} {report : SpanReport}

/-- How often a program has a span: by its handles, and by having entered it. -/
def uses (s : SpanHandles) (i : Nat) : Nat :=
  s.handles.count i + s.forest.entered.countP (·.1 = i)

/-- Each span is held as often as the program has it and has open children. -/
abbrev Kept (s : SpanHandles) : Prop := s.forest.Held s.uses

/-- No span is open once the program has none. -/
theorem Kept.not_isOpen_of_nil (h : s.Kept) (hhandles : s.handles = []) (hentered : s.forest.entered = [])
    (i : Nat) : ¬ s.forest.isOpen i :=
  Held.not_isOpen h fun j => by simp [uses, hhandles, hentered]

/-- What a move does: it makes a span, changes one that is open, or lets go of one, and then spans may
end. -/
inductive Moves (s : SpanHandles) (now : Nat) : SpanMove → SpanReport → SpanHandles → Prop where
  | unwanted {kind : SpanKind} {parent : Option Nat} {fields : Fields} {draw : SpanDraw}
      (h : s.forest.wants kind.level = false) : Moves s now (.start kind parent fields draw) ⟨[], []⟩ s
  | start {kind : SpanKind} {parent : Option Nat} {fields : Fields} {draw : SpanDraw}
      (h : s.forest.wants kind.level = true) (hparent : ∀ p, parent = some p → s.forest.isOpen p) :
      Moves s now (.start kind parent fields draw) ⟨[], []⟩
        ⟨(s.forest.start kind parent fields draw now).2, s.forest.nodes.length :: s.handles⟩
  | record {i : Nat} {fields : Fields} (h : s.forest.isOpen i) :
      Moves s now (.record i fields) ⟨[], []⟩ ⟨s.forest.setFields i fields, s.handles⟩
  | hold {i : Nat} (h : s.forest.isOpen i) :
      Moves s now (.hold i) ⟨[], []⟩ ⟨s.forest.hold i, i :: s.handles⟩
  | enter {i : Nat} (h : s.forest.isOpen i) :
      Moves s now (.enter i) ⟨[], []⟩ ⟨s.forest.enter i, s.handles⟩
  | ends {m : SpanMove} {entered : List (Nat × Bool)} {out : List SpanRecord × SpanForest}
      {ended handles : List Nat} (hm : m.letsGo)
      (h : ({ s.forest with entered } : SpanForest).Ends now out ended) (hkept : Kept ⟨out.2, handles⟩) :
      Moves s now m ⟨ended, out.1⟩ ⟨out.2, handles⟩

/-- Nothing ends where all spans stay open. -/
theorem become_of_open {handles : List Nat} {g : SpanForest} (h : ∀ j, s.forest.isOpen j → g.isOpen j) :
    s.become handles ([], g) = (⟨[], []⟩, ⟨g, handles⟩) := by
  have hnone : s.forest.endedIn g = [] := by
    rw [endedIn, List.filter_eq_nil_iff]
    intro j _ hj
    rw [Bool.and_eq_true, Bool.not_eq_true'] at hj
    rw [h j hj.1] at hj
    cases hj.2
  rw [become, hnone]

theorem become_of_ends {entered : List (Nat × Bool)} {out : List SpanRecord × SpanForest}
    {ended handles : List Nat} (h : ({ s.forest with entered } : SpanForest).Ends now out ended) :
    s.become handles out = (⟨ended, out.1⟩, ⟨out.2, handles⟩) := by
  have hended : s.forest.endedIn out.2 = ended := h.endedIn_eq
  rw [become, hended]

theorem countP_eraseP {entered : List (Nat × Bool)} {j : Nat} (h : entered.any (·.1 = i)) :
    (entered.eraseP (·.1 = i)).countP (·.1 = j) + (if i = j then 1 else 0) = entered.countP (·.1 = j) := by
  obtain ⟨e, he, hei⟩ := List.any_eq_true.mp h
  obtain ⟨a, before, after, -, ha, hsplit, herase⟩ :=
    List.exists_of_eraseP (p := fun e => decide (e.1 = i)) he hei
  rw [herase, hsplit, List.countP_append, List.countP_append, List.countP_cons]
  have hai : a.1 = i := of_decide_eq_true ha
  simp only [hai, decide_eq_true_eq]
  omega

/-- What is left is held once less. -/
theorem exists_ends_leave (hs : s.Kept) (h : s.forest.entered.any (·.1 = i)) (now : Nat) :
    ∃ ended, ({ s.forest with entered := s.forest.entered.eraseP (·.1 = i) } : SpanForest).Ends now
        (s.forest.leave i now) ended ∧ Kept ⟨(s.forest.leave i now).2, s.handles⟩ := by
  have hcount (j : Nat) := countP_eraseP (j := j) h
  have hpos : 0 < s.uses i := by
    have hone := hcount i
    rw [if_pos rfl] at hone
    rw [uses, ← hone]
    omega
  obtain ⟨ended, hends, -, hless⟩ :=
    exists_ends (Held.withEntered hs (s.forest.entered.eraseP (·.1 = i))) hpos now
  refine ⟨ended, hends, hless.congr fun j => ?_⟩
  have hentries : (s.forest.leave i now).2.entered = s.forest.entered.eraseP (·.1 = i) := hends.entered_eq
  have hone := hcount j
  simp only [uses, hentries]
  split
  · next hj =>
    subst hj
    rw [if_pos rfl] at hone
    omega
  · next hj =>
    rw [if_neg (Ne.symm hj)] at hone
    omega

/-- What is dropped is held once less. -/
theorem exists_ends_drop (hs : s.Kept) (h : i ∈ s.handles) (now : Nat) :
    ∃ ended, s.forest.Ends now (s.forest.release i now) ended ∧
      Kept ⟨(s.forest.release i now).2, s.handles.erase i⟩ := by
  have hone := List.count_pos_iff.mpr h
  have hpos : 0 < s.uses i := by
    rw [uses]
    omega
  obtain ⟨ended, hends, -, hless⟩ := exists_ends hs hpos now
  refine ⟨ended, hends, hless.congr fun j => ?_⟩
  simp only [uses, hends.entered_eq, List.count_erase, beq_iff_eq]
  split
  · next hj =>
    subst hj
    rw [if_pos rfl]
    omega
  · next hj =>
    rw [if_neg (Ne.symm hj)]
    omega

theorem moves_of_move? (hs : s.Kept) (h : s.move? (now, m) = some (report, s')) :
    s.Moves now m report s' := by
  cases m with
  | start kind parent fields draw =>
    simp only [move?, Option.ite_none_right_eq_some, Option.some.injEq] at h
    obtain ⟨hall, heq⟩ := h
    have hparent : ∀ p, parent = some p → s.forest.isOpen p := by
      rintro p rfl
      exact hall
    cases hw : s.forest.wants kind.level with
    | false =>
      rw [start_of_unwanted hw, become_of_open fun _ => id] at heq
      obtain ⟨rfl, rfl⟩ := Prod.mk.inj heq
      exact .unwanted hw
    | true =>
      have hopen (j : Nat) (hj : s.forest.isOpen j) :
          (s.forest.start kind parent fields draw now).2.isOpen j := by
        rw [isOpen_start hw hparent, hj, Bool.or_true]
      rw [(start_of_wanted hw).1, become_of_open hopen] at heq
      obtain ⟨rfl, rfl⟩ := Prod.mk.inj heq
      exact .start hw hparent
  | record i fields =>
    simp only [move?, Option.ite_none_right_eq_some, Option.some.injEq] at h
    obtain ⟨hopen, heq⟩ := h
    rw [become_of_open fun j hj => (isOpen_setFields hopen).trans hj] at heq
    obtain ⟨rfl, rfl⟩ := Prod.mk.inj heq
    exact .record hopen
  | hold i =>
    simp only [move?, Option.ite_none_right_eq_some, Option.some.injEq] at h
    obtain ⟨hopen, heq⟩ := h
    rw [become_of_open fun j hj => (isOpen_hold hopen).trans hj] at heq
    obtain ⟨rfl, rfl⟩ := Prod.mk.inj heq
    exact .hold hopen
  | enter i =>
    simp only [move?, Option.ite_none_right_eq_some, Option.some.injEq] at h
    obtain ⟨hopen, heq⟩ := h
    have hstill (j : Nat) (hj : s.forest.isOpen j) : (s.forest.enter i).isOpen j :=
      (isOpen_hold hopen).trans hj
    rw [become_of_open hstill] at heq
    obtain ⟨rfl, rfl⟩ := Prod.mk.inj heq
    exact .enter hopen
  | leave i =>
    simp only [move?, Option.ite_none_right_eq_some, Option.some.injEq] at h
    obtain ⟨hentered, heq⟩ := h
    obtain ⟨ended, hends, hkept⟩ := exists_ends_leave hs hentered now
    rw [become_of_ends hends] at heq
    obtain ⟨rfl, rfl⟩ := Prod.mk.inj heq
    exact .ends rfl hends hkept
  | drop i =>
    simp only [move?, Option.ite_none_right_eq_some, Option.some.injEq] at h
    obtain ⟨hmem, heq⟩ := h
    obtain ⟨ended, hends, hkept⟩ := exists_ends_drop hs hmem now
    have hsame : ({ s.forest with entered := s.forest.entered } : SpanForest).Ends now
        (s.forest.release i now) ended := hends
    rw [become_of_ends hsame] at heq
    obtain ⟨rfl, rfl⟩ := Prod.mk.inj heq
    exact .ends rfl hsame hkept

/-! ## Steps and runs -/

/-- A move keeps what the program has. -/
theorem Moves.kept (h : s.Moves now m report s') (hs : s.Kept) : s'.Kept := by
  cases h with
  | unwanted hw => exact hs
  | @start kind parent fields draw hw hparent =>
    refine (hs.start hw hparent).congr fun j => ?_
    have hentries : (s.forest.start kind parent fields draw now).2.entered = _ := entered_start hw
    have hnone : ¬ 0 < s.uses s.forest.nodes.length := fun hpos => Nat.lt_irrefl _ (hs.lt_length _ hpos)
    rw [uses] at hnone
    simp only [uses, hentries, List.count_cons, beq_iff_eq]
    by_cases hj : j = s.forest.nodes.length
    · subst hj
      simp only [if_true]
      omega
    · simp only [hj, Ne.symm hj, if_false, Nat.add_zero]
  | record hopen => exact hs.setFields hopen
  | @hold i hopen =>
    refine (hs.hold hopen).congr fun j => ?_
    have hentries : (s.forest.hold i).entered = s.forest.entered := rfl
    simp only [uses, hentries, List.count_cons, beq_iff_eq, eq_comm (a := j)]
    split <;> omega
  | @enter i hopen =>
    have hentries : (s.forest.enter i).entered =
        (i, s.forest.entered.any (·.1 = i)) :: s.forest.entered := rfl
    refine ((hs.hold hopen).withEntered (s.forest.enter i).entered).congr fun j => ?_
    simp only [uses, hentries, List.countP_cons, decide_eq_true_eq, eq_comm (a := j)]
    split <;> omega
  | ends hm hends hkept => exact hkept

/-- Spans end as the report says, no span opens again, and new ones are open. -/
structure Reports (s : SpanHandles) (report : SpanReport) (s' : SpanHandles) : Prop where
  nodup : report.ended.Nodup
  mem_iff : ∀ j, j ∈ report.ended ↔ s.forest.isOpen j ∧ ¬ s'.forest.isOpen j
  isOpen_imp : ∀ j, s'.forest.isOpen j → s.forest.isOpen j ∨ s.forest.nodes.length ≤ j
  open_new : ∀ j, s.forest.nodes.length ≤ j → j < s'.forest.nodes.length → s'.forest.isOpen j
  length_le : s.forest.nodes.length ≤ s'.forest.nodes.length

theorem reports_of_still (hopen : ∀ j, s'.forest.isOpen j = s.forest.isOpen j)
    (hlength : s'.forest.nodes.length = s.forest.nodes.length) : s.Reports ⟨[], []⟩ s' where
  nodup := .nil
  mem_iff j := by simp [hopen]
  isOpen_imp j hj := .inl (hopen j ▸ hj)
  open_new j hj hlt := absurd hlt (by omega)
  length_le := Nat.le_of_eq hlength.symm

theorem Moves.reports (h : s.Moves now m report s') : s.Reports report s' := by
  cases h with
  | unwanted hw => exact reports_of_still (fun _ => rfl) rfl
  | @start kind parent fields draw hw hparent =>
    have hopen (j : Nat) : (s.forest.start kind parent fields draw now).2.isOpen j = _ :=
      isOpen_start hw hparent
    refine ⟨.nil, fun j => ?_, fun j hj => ?_, fun j hle hlt => ?_, ?_⟩
    · rw [hopen]
      simp +contextual
    · rw [hopen, Bool.or_eq_true, decide_eq_true_eq] at hj
      exact hj.elim (fun hlast => .inr (Nat.le_of_eq hlast.symm)) .inl
    · rw [length_start hw] at hlt
      rw [hopen, Bool.or_eq_true, decide_eq_true_eq]
      exact .inl (by omega)
    · rw [length_start hw]
      exact Nat.le_succ _
  | record hopen => exact reports_of_still (fun j => isOpen_setFields hopen) (List.length_modify ..)
  | hold hopen => exact reports_of_still (fun j => isOpen_hold hopen) (List.length_modify ..)
  | enter hopen => exact reports_of_still (fun j => isOpen_hold hopen) (List.length_modify ..)
  | @ends m entered out ended handles hm hends hkept =>
    have hlength : out.2.nodes.length = s.forest.nodes.length := by
      simpa using congrArg List.length hends.attributes_eq
    exact ⟨hends.descending.imp Nat.ne_of_gt, hends.mem_iff, fun j hj => .inl (hends.open_before j hj),
      fun j hj hlt => absurd (hlength ▸ hlt) (Nat.not_lt_of_le hj), Nat.le_of_eq hlength.symm⟩

variable {sampler : Sampler} {exportLimit logLimit : LevelLimit} {moves : List (Nat × SpanMove)}
  {reports : List SpanReport}

theorem kept_new : (new sampler exportLimit logLimit).Kept :=
  ⟨nofun, nofun, fun i hi => absurd hi (by simp [uses, new, SpanForest.new])⟩

theorem kept_of_run (h : (new sampler exportLimit logLimit).run? moves = some (reports, s)) : s.Kept :=
  History.run?_induction (P := fun _ _ s => s.Kept) kept_new
    (fun _ _ _ _ _ _ _ hs hstep => (moves_of_move? hs hstep).kept hs) h

/-- Each span ends once: those that have ended are those that were made and are not open. -/
theorem ended_of_run (h : (new sampler exportLimit logLimit).run? moves = some (reports, s)) :
    (reports.flatMap (·.ended)).Nodup ∧
      ∀ i, i ∈ reports.flatMap (·.ended) ↔ i < s.forest.nodes.length ∧ ¬ s.forest.isOpen i := by
  refine History.run?_induction (P := fun _ reports s => (reports.flatMap (·.ended)).Nodup ∧
    ∀ i, i ∈ reports.flatMap (·.ended) ↔ i < s.forest.nodes.length ∧ ¬ s.forest.isOpen i)
    ⟨.nil, by simp [new, SpanForest.new]⟩ (fun es os t e report u hrun ih hstep => ?_) h
  have hr := (moves_of_move? (kept_of_run hrun) hstep).reports
  obtain ⟨hnodup, hmem⟩ := ih
  rw [List.flatMap_append, List.flatMap_singleton]
  refine ⟨List.nodup_append.mpr ⟨hnodup, hr.nodup, ?_⟩, fun i => ?_⟩
  · -- what has ended before is not open any more
    rintro i hi _ hnow rfl
    exact ((hmem i).mp hi).2 ((hr.mem_iff i).mp hnow).1
  · rw [List.mem_append, hmem, hr.mem_iff]
    constructor
    · rintro (⟨hlt, hclosed⟩ | ⟨hopen, hclosed⟩)
      · refine ⟨Nat.lt_of_lt_of_le hlt hr.length_le, fun hagain => ?_⟩
        exact (hr.isOpen_imp i hagain).elim hclosed fun hle => absurd hlt (Nat.not_lt_of_le hle)
      · exact ⟨Nat.lt_of_lt_of_le (lt_of_isOpen hopen) hr.length_le, hclosed⟩
    · rintro ⟨hlt, hclosed⟩
      have hold : i < t.forest.nodes.length := by
        by_contra hnew
        exact hclosed (hr.open_new i (Nat.le_of_not_lt hnew) hlt)
      by_cases hopen : t.forest.isOpen i
      · exact .inr ⟨hopen, hclosed⟩
      · exact .inl ⟨hold, hopen⟩

end SpanHandles

end MetricsGateway
