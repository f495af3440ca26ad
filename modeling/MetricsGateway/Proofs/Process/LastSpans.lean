import Mathlib.Data.List.Induction
import MetricsGateway.Process.Closing
import MetricsGateway.Proofs.Telemetry.Batches

/-!
The spans of a run at its end. Main statement: when the exporter answers, it has handed over just the spans
that ended before it was asked, so no span of the run is missing exactly if every task was taken away before.
The exporter may be asked earlier, since a task reports while its span goes on: such a run loses spans.
-/

namespace MetricsGateway

namespace Closing

open ExportEvent

variable {c d c₀ : Closing} {m : ClosingMove} {moves past later : List ClosingMove}
  {e : ExportEvent RunSpan} {rest : List (ExportEvent RunSpan)} {n i : Nat}

/-- The spans that have ended, in order: they are handed over, in the batch or on their way. -/
def endedSpans (c : Closing) : List RunSpan := c.handed ++ (c.batch ++ ExportEvent.spans c.channel)

/-- The run is let go of and every task is gone. -/
def IsLeft (c : Closing) : Prop := c.returned = true ∧ ∀ t ∈ c.tasks, t = .gone

/-! ## Moves -/

/-- Where a move leads. -/
inductive Moves (c : Closing) : ClosingMove → Closing → Prop where
  | report (i : Nat) (h : c.tasks[i]? = some .working) :
      Moves c (.report i) { c with tasks := c.tasks.set i .reported }
  | vanish (i : Nat) (h : c.tasks[i]? = some .reported) :
      Moves c (.vanish i) ({ c with tasks := c.tasks.set i .gone }.send (.span (.actor i))).endRun
  | take (h : c.taken < c.arrived) : Moves c .take { c with taken := c.taken + 1 }
  | leave (h : c.taken = c.tasks.length) (hr : c.returned = false) :
      Moves c .leave { c with returned := true }.endRun
  | ask (hr : c.returned = true) (ha : c.asked = false) :
      Moves c .ask ({ c with asked := true }.send .flush)
  | receive (e : ExportEvent RunSpan) (rest : List (ExportEvent RunSpan)) (h : c.channel = e :: rest) :
      Moves c .receive { { c with channel := rest }.absorb e with answered := e.isFlush || c.answered }
  | tick : Moves c .tick (c.absorb .tick)

theorem moves_of_step? (h : c.step? m = some d) : c.Moves m d := by
  cases m with
  | report i =>
    simp only [step?, Option.ite_none_right_eq_some, Option.some.injEq] at h
    obtain ⟨hi, rfl⟩ := h
    exact .report i hi
  | vanish i =>
    simp only [step?, Option.ite_none_right_eq_some, Option.some.injEq] at h
    obtain ⟨hi, rfl⟩ := h
    exact .vanish i hi
  | take =>
    simp only [step?, Option.ite_none_right_eq_some, Option.some.injEq] at h
    obtain ⟨hlt, rfl⟩ := h
    exact .take hlt
  | leave =>
    simp only [step?, Option.ite_none_right_eq_some, Option.some.injEq, Bool.and_eq_true,
      decide_eq_true_eq, Bool.not_eq_true'] at h
    obtain ⟨⟨htaken, hr⟩, rfl⟩ := h
    exact .leave htaken hr
  | ask =>
    simp only [step?, Option.ite_none_right_eq_some, Option.some.injEq, Bool.and_eq_true,
      Bool.not_eq_true'] at h
    obtain ⟨⟨hr, ha⟩, rfl⟩ := h
    exact .ask hr ha
  | receive =>
    cases hchannel : c.channel with
    | nil =>
      simp only [step?, hchannel] at h
      cases h
    | cons e rest =>
      have hd : d = { { c with channel := rest }.absorb e with answered := e.isFlush || c.answered } := by
        simp only [step?, hchannel] at h
        cases e <;> exact (Option.some.inj h).symm
      exact hd ▸ .receive e rest hchannel
  | tick =>
    obtain rfl := Option.some.inj h
    exact .tick

theorem run?_concat : c.run? (moves ++ [m]) = (c.run? moves).bind (·.step? m) := by
  induction moves generalizing c with
  | nil => exact Option.bind_fun_some _
  | cons first moves ih =>
    rw [List.cons_append, run?, run?, Option.bind_assoc]
    exact congrArg (Option.bind _) (funext fun _ => ih)

/-- What holds at the start and is kept by each move holds after every run. The move may use that the state
before it was reached. -/
theorem run?_induction {P : List ClosingMove → Closing → Prop} (start : P [] c₀)
    (step : ∀ moves c m d, c₀.run? moves = some c → P moves c → c.Moves m d → P (moves ++ [m]) d)
    (h : c₀.run? moves = some c) : P moves c := by
  induction moves using List.reverseRecOn generalizing c with
  | nil =>
    obtain rfl := Option.some.inj h
    exact start
  | append_singleton moves m ih =>
    rw [run?_concat] at h
    obtain ⟨b, hb, hstep⟩ := Option.bind_eq_some_iff.mp h
    exact step moves b m c hb (ih hb) (moves_of_step? hstep)

/-! ## Spans that have ended -/

theorem endedSpans_send (c : Closing) (e : ExportEvent RunSpan) :
    (c.send e).endedSpans = c.endedSpans ++ e.span?.toList := by
  simp only [endedSpans, send, spans_append, List.append_assoc]
  cases e <;> rfl

/-- What the exporter has goes from its batch to what it has handed over. -/
theorem handed_absorb (c : Closing) (e : ExportEvent RunSpan) :
    (c.absorb e).handed ++ (c.absorb e).batch = c.handed ++ (c.batch ++ e.span?.toList) := by
  have hout (out : Option (List RunSpan)) : out.getD [] = out.toList.flatten := by
    cases out with
    | none => rfl
    | some batch => exact (List.append_nil batch).symm
  simp only [absorb, hout, List.append_assoc]
  rw [SpanExport.flatten_step]

theorem channel_absorb (c : Closing) (e : ExportEvent RunSpan) : (c.absorb e).channel = c.channel := rfl

theorem endedSpans_receive (h : c.channel = e :: rest) :
    ({ c with channel := rest }.absorb e).endedSpans = c.endedSpans := by
  rw [endedSpans, channel_absorb, ← List.append_assoc, handed_absorb, endedSpans, h, spans_cons]
  simp only [List.append_assoc]

theorem endedSpans_tick (c : Closing) : (c.absorb .tick).endedSpans = c.endedSpans := by
  have hnone : (ExportEvent.tick : ExportEvent RunSpan).span?.toList = [] := rfl
  rw [endedSpans, channel_absorb, ← List.append_assoc, handed_absorb, hnone, List.append_nil,
    List.append_assoc]
  rfl

theorem endRun_of_isLeft (h : c.IsLeft) : c.endRun = c.send (.span .run) := by
  have hall : c.tasks.all (· = .gone) = true := List.all_eq_true.mpr fun t ht => decide_eq_true (h.2 t ht)
  rw [endRun, h.1, hall]
  rfl

theorem endRun_of_not_isLeft (h : ¬ c.IsLeft) : c.endRun = c := by
  rw [endRun, if_neg]
  intro hleft
  obtain ⟨hr, hall⟩ := Bool.and_eq_true_iff.mp hleft
  exact h ⟨hr, fun t ht => of_decide_eq_true (List.all_eq_true.mp hall t ht)⟩

/-- The end of the run is told to the exporter and changes nothing else. -/
theorem endRun_eq (c : Closing) : c.endRun = { c with channel := c.endRun.channel } := by
  unfold endRun
  split <;> rfl

theorem tasks_endRun (c : Closing) : c.endRun.tasks = c.tasks := by rw [endRun_eq]

theorem asked_endRun (c : Closing) : c.endRun.asked = c.asked := by rw [endRun_eq]

theorem answered_endRun (c : Closing) : c.endRun.answered = c.answered := by rw [endRun_eq]

theorem handed_endRun (c : Closing) : c.endRun.handed = c.handed := by rw [endRun_eq]

theorem isLeft_endRun : c.endRun.IsLeft ↔ c.IsLeft := by
  rw [endRun_eq]
  rfl

theorem mem_endedSpans_endRun {x : RunSpan} :
    x ∈ c.endRun.endedSpans ↔ x ∈ c.endedSpans ∨ (x = .run ∧ c.IsLeft) := by
  by_cases h : c.IsLeft
  · rw [endRun_of_isLeft h, endedSpans_send, List.mem_append, span?, Option.toList_some, List.mem_singleton]
    exact or_congr_right (and_iff_left h).symm
  · rw [endRun_of_not_isLeft h]
    exact (or_iff_left fun hx => h hx.2).symm

/-- The span of an actor has ended when its task is gone, and that of the run when it is left. -/
structure Ends (c : Closing) : Prop where
  actor_mem : ∀ i, .actor i ∈ c.endedSpans ↔ c.tasks[i]? = some .gone
  run_mem : .run ∈ c.endedSpans ↔ c.IsLeft

namespace Ends

theorem new (n : Nat) : Ends (new n) where
  actor_mem i := by
    refine ⟨fun h => absurd h List.not_mem_nil, fun h => ?_⟩
    have hmem : ActorTask.gone ∈ List.replicate n ActorTask.working := List.mem_of_getElem? h
    cases List.eq_of_mem_replicate hmem
  run_mem := ⟨fun h => absurd h List.not_mem_nil, fun h => absurd h.1 Bool.false_ne_true⟩

theorem of_eq (a : Ends c) (hspans : d.endedSpans = c.endedSpans) (htasks : d.tasks = c.tasks)
    (hreturned : d.returned = c.returned) : Ends d where
  actor_mem i := by rw [hspans, htasks]; exact a.actor_mem i
  run_mem := by rw [hspans, IsLeft, htasks, hreturned]; exact a.run_mem

/-- A run with a task that is not gone is not left. -/
theorem not_isLeft {t : ActorTask} (h : c.tasks[i]? = some t) (ht : t ≠ .gone) : ¬ c.IsLeft :=
  fun hleft => ht (hleft.2 t (List.mem_of_getElem? h))

theorem report (a : Ends c) (h : c.tasks[i]? = some .working) :
    Ends { c with tasks := c.tasks.set i .reported } := by
  obtain ⟨hlt, -⟩ := List.getElem?_eq_some_iff.mp h
  have hself : (c.tasks.set i .reported)[i]? = some .reported := List.getElem?_set_self hlt
  refine ⟨fun j => (a.actor_mem j).trans ?_, a.run_mem.trans ?_⟩
  · by_cases hj : i = j
    · subst hj
      rw [h, hself]
      exact iff_of_false (by decide) (by decide)
    · rw [List.getElem?_set_ne hj]
  · refine iff_of_false (not_isLeft h (by decide)) ?_
    exact not_isLeft (c := { c with tasks := c.tasks.set i .reported }) hself (by decide)

/-- The span of the actor ends first, and that of the run after it if no other task keeps it. -/
theorem vanish (a : Ends c) (h : c.tasks[i]? = some .reported) :
    Ends ({ c with tasks := c.tasks.set i .gone }.send (.span (.actor i))).endRun := by
  obtain ⟨hlt, -⟩ := List.getElem?_eq_some_iff.mp h
  have hrun : RunSpan.run ∉ c.endedSpans := fun hmem => not_isLeft h (by decide) (a.run_mem.mp hmem)
  refine ⟨fun j => ?_, ?_⟩
  · rw [mem_endedSpans_endRun, endedSpans_send, List.mem_append, tasks_endRun, span?, Option.toList_some,
      List.mem_singleton, RunSpan.actor.injEq]
    by_cases hj : i = j
    · subst hj
      exact iff_of_true (.inl (.inr rfl)) (List.getElem?_set_self hlt)
    · have hset : (c.tasks.set i .gone)[j]? = c.tasks[j]? := List.getElem?_set_ne hj
      refine Iff.trans ⟨?_, fun hmem => .inl (.inl hmem)⟩ ((a.actor_mem j).trans (by rw [send, hset]))
      rintro ((hmem | rfl) | ⟨⟨⟩, -⟩)
      · exact hmem
      · exact absurd rfl hj
  · rw [mem_endedSpans_endRun, endedSpans_send, List.mem_append, isLeft_endRun]
    refine ⟨?_, fun hleft => .inr ⟨rfl, hleft⟩⟩
    rintro ((hmem | hmem) | ⟨-, hleft⟩)
    · exact absurd hmem hrun
    · cases List.mem_singleton.mp hmem
    · exact hleft

theorem leave (a : Ends c) (hr : c.returned = false) : Ends { c with returned := true }.endRun := by
  have hrun : RunSpan.run ∉ c.endedSpans := fun hmem =>
    Bool.false_ne_true (hr.symm.trans (a.run_mem.mp hmem).1)
  refine ⟨fun j => ?_, ?_⟩
  · rw [mem_endedSpans_endRun, tasks_endRun]
    exact (or_iff_left fun hx => by cases hx.1).trans (a.actor_mem j)
  · rw [mem_endedSpans_endRun, isLeft_endRun]
    exact (or_iff_right hrun).trans (and_iff_right rfl)

theorem step (a : Ends c) (h : c.Moves m d) : Ends d := by
  cases h with
  | report i h => exact a.report h
  | vanish i h => exact a.vanish h
  | take h => exact a.of_eq rfl rfl rfl
  | leave h hr => exact a.leave hr
  | ask hr ha =>
    refine a.of_eq ?_ rfl rfl
    rw [endedSpans_send]
    exact List.append_nil _
  | receive e rest h => exact a.of_eq (endedSpans_receive h) rfl rfl
  | tick => exact a.of_eq (endedSpans_tick c) rfl rfl

end Ends

theorem ends_of_run (h : (new n).run? moves = some c) : Ends c :=
  run?_induction (P := fun _ c => Ends c) (.new n) (fun _ _ _ _ _ a hm => a.step hm) h

/-! ## From the question to the answer -/

theorem Moves.length_tasks (hm : c.Moves m d) : d.tasks.length = c.tasks.length := by
  cases hm with
  | report i h => exact List.length_set
  | vanish i h => exact (congrArg List.length (tasks_endRun _)).trans List.length_set
  | leave h hr => exact congrArg List.length (tasks_endRun _)
  | _ => rfl

/-- What is handed over stays so. -/
theorem Moves.handed_isPrefix (hm : c.Moves m d) : c.handed <+: d.handed := by
  cases hm with
  | vanish i h | leave h hr => exact (handed_endRun _).symm ▸ List.prefix_rfl
  | receive e rest h => exact List.prefix_append _ _
  | tick => exact List.prefix_append _ _
  | _ => exact List.prefix_rfl

/-- The exporter was asked in `c₀` and has not come to the question yet: what it has, and what comes before
the question, are the spans that had ended. -/
def Waiting (c₀ c : Closing) : Prop :=
  c.answered = false ∧ ∃ before after, c.channel = before ++ .flush :: after ∧
    (∀ e ∈ before, e.isFlush = false) ∧ c.handed ++ (c.batch ++ ExportEvent.spans before) = c₀.endedSpans

/-- The exporter was asked in `c₀` and has answered. -/
def Answered (c₀ c : Closing) : Prop := c.answered = true ∧ c₀.endedSpans <+: c.handed

theorem Waiting.send (h : Waiting c₀ c) (e : ExportEvent RunSpan) : Waiting c₀ (c.send e) := by
  obtain ⟨hansw, before, after, hchannel, hbefore, hspans⟩ := h
  refine ⟨hansw, before, after ++ [e], ?_, hbefore, hspans⟩
  rw [Closing.send, hchannel, List.append_assoc, List.cons_append]

theorem Waiting.endRun (h : Waiting c₀ c) : Waiting c₀ c.endRun := by
  by_cases hleft : c.IsLeft
  · rw [endRun_of_isLeft hleft]
    exact h.send _
  · rw [endRun_of_not_isLeft hleft]
    exact h

/-- The exporter comes closer to the question, or answers with just what had ended. -/
theorem Waiting.receive (h : Waiting c₀ c) (hchannel : c.channel = e :: rest)
    (hd : d = { { c with channel := rest }.absorb e with answered := e.isFlush || c.answered }) :
    Waiting c₀ d ∨ (d.answered = true ∧ d.handed = c₀.endedSpans) := by
  obtain ⟨hansw, before, after, hsplit, hbefore, hspans⟩ := h
  subst hd
  cases before with
  | nil =>
    obtain ⟨rfl, rfl⟩ := List.cons.inj (hchannel.symm.trans hsplit)
    refine .inr ⟨rfl, ?_⟩
    have hbatch : ({ c with channel := rest }.absorb .flush).batch = [] :=
      SpanExport.snd_step_of_span?_eq_none (e := .flush) c.batch rfl
    have hall := handed_absorb { c with channel := rest } .flush
    rw [hbatch, List.append_nil] at hall
    exact hall.trans hspans
  | cons first before =>
    obtain ⟨rfl, rfl⟩ := List.cons.inj (hchannel.symm.trans hsplit)
    have hfirst : e.isFlush = false := hbefore e List.mem_cons_self
    refine .inl ⟨?_, before, after, rfl, fun x hx => hbefore x (List.mem_cons_of_mem _ hx), ?_⟩
    · rw [hfirst]
      exact hansw
    · rw [spans_cons] at hspans
      rw [← hspans, ← List.append_assoc]
      refine (congrArg (· ++ _) (handed_absorb _ e)).trans ?_
      simp only [List.append_assoc]

theorem Waiting.tick (h : Waiting c₀ c) : Waiting c₀ (c.absorb .tick) := by
  obtain ⟨hansw, before, after, hchannel, hbefore, hspans⟩ := h
  refine ⟨hansw, before, after, hchannel, hbefore, ?_⟩
  rw [← hspans, ← List.append_assoc, handed_absorb, List.append_assoc, List.append_assoc]
  rfl

/-- Where the question stands after some moves: it was not put yet, or it was put in a state that the moves
until then led to, after the run had been let go of. -/
inductive Stage (n : Nat) (moves : List ClosingMove) (c : Closing) : Prop where
  | unasked (hasked : c.asked = false) (hansw : c.answered = false)
      (hflush : ∀ e ∈ c.channel, e.isFlush = false)
  | asked (c₀ : Closing) (past later : List ClosingMove) (hmoves : moves = past ++ .ask :: later)
      (h₀ : (new n).run? past = some c₀) (hr : c₀.returned = true) (hasked : c.asked = true)
      (hlen : c.tasks.length = c₀.tasks.length) (hstage : Waiting c₀ c ∨ Answered c₀ c)

theorem isFlush_of_send (hflush : ∀ x ∈ c.channel, x.isFlush = false) (he : e.isFlush = false) :
    ∀ x ∈ (c.send e).channel, x.isFlush = false := by
  intro x hx
  obtain hx | hx := List.mem_append.mp hx
  · exact hflush x hx
  · exact List.mem_singleton.mp hx ▸ he

theorem isFlush_of_endRun (hflush : ∀ x ∈ c.channel, x.isFlush = false) :
    ∀ x ∈ c.endRun.channel, x.isFlush = false := by
  by_cases hleft : c.IsLeft
  · rw [endRun_of_isLeft hleft]
    exact isFlush_of_send hflush rfl
  · rw [endRun_of_not_isLeft hleft]
    exact hflush

/-- An exporter that was asked goes on until it answers, and then it has handed over just what had ended. -/
theorem Moves.of_waiting (hm : c.Moves m d) (hasked : c.asked = true) (h : Waiting c₀ c) :
    d.asked = true ∧ (Waiting c₀ d ∨ (d.answered = true ∧ d.handed = c₀.endedSpans)) := by
  cases hm with
  | report i hi => exact ⟨hasked, .inl h⟩
  | vanish i hi =>
    have hset : Waiting c₀ { c with tasks := c.tasks.set i .gone } := h
    exact ⟨(asked_endRun _).trans hasked, .inl (hset.send _).endRun⟩
  | take hlt => exact ⟨hasked, .inl h⟩
  | leave htaken hr =>
    have hset : Waiting c₀ { c with returned := true } := h
    exact ⟨(asked_endRun _).trans hasked, .inl hset.endRun⟩
  | ask hr ha => exact absurd (ha.symm.trans hasked) Bool.false_ne_true
  | receive e rest hchannel => exact ⟨hasked, h.receive hchannel rfl⟩
  | tick => exact ⟨hasked, .inl h.tick⟩

theorem Moves.of_answered (hm : c.Moves m d) (hasked : c.asked = true) (h : Answered c₀ c) :
    d.asked = true ∧ Answered c₀ d := by
  have hspans : c₀.endedSpans <+: d.handed := h.2.trans hm.handed_isPrefix
  cases hm with
  | vanish i hi | leave htaken hr =>
    exact ⟨(asked_endRun _).trans hasked, (answered_endRun _).trans h.1, hspans⟩
  | ask hr ha => exact ⟨rfl, h.1, hspans⟩
  | receive e rest hchannel => exact ⟨hasked, Bool.or_eq_true_iff.mpr (.inr h.1), hspans⟩
  | _ => exact ⟨hasked, h.1, hspans⟩

theorem Moves.unasked (hm : c.Moves m d) (hne : m ≠ .ask) (hasked : c.asked = false)
    (hansw : c.answered = false) (hflush : ∀ x ∈ c.channel, x.isFlush = false) :
    d.asked = false ∧ d.answered = false ∧ ∀ x ∈ d.channel, x.isFlush = false := by
  cases hm with
  | vanish i hi =>
    refine ⟨(asked_endRun _).trans hasked, (answered_endRun _).trans hansw, isFlush_of_endRun ?_⟩
    exact isFlush_of_send (c := { c with tasks := c.tasks.set i .gone }) hflush rfl
  | leave htaken hr =>
    exact ⟨(asked_endRun _).trans hasked, (answered_endRun _).trans hansw,
      isFlush_of_endRun (c := { c with returned := true }) hflush⟩
  | ask hr ha => exact absurd rfl hne
  | receive e rest hchannel =>
    rw [hchannel] at hflush
    refine ⟨hasked, ?_, fun x hx => hflush x (List.mem_cons_of_mem _ hx)⟩
    rw [hflush e List.mem_cons_self]
    exact hansw
  | _ => exact ⟨hasked, hansw, hflush⟩

namespace Stage

theorem step (g : Stage n moves c) (h : (new n).run? moves = some c) (hm : c.Moves m d) :
    Stage n (moves ++ [m]) d := by
  cases g with
  | unasked hasked hansw hflush =>
    by_cases hne : m = .ask
    · subst hne
      cases hm with
      | ask hr ha =>
        refine .asked c moves [] rfl h hr rfl rfl (.inl ⟨hansw, c.channel, [], rfl, hflush, ?_⟩)
        rfl
    · obtain ⟨hasked, hansw, hflush⟩ := hm.unasked hne hasked hansw hflush
      exact .unasked hasked hansw hflush
  | asked c₀ past later hmoves h₀ hr hasked hlen hstage =>
    have hnext : moves ++ [m] = past ++ .ask :: (later ++ [m]) := by
      rw [hmoves, List.append_assoc, List.cons_append]
    have hlen := hm.length_tasks.trans hlen
    obtain h | h := hstage
    · obtain ⟨hasked, h | ⟨hansw, hspans⟩⟩ := hm.of_waiting hasked h
      · exact .asked c₀ past _ hnext h₀ hr hasked hlen (.inl h)
      · exact .asked c₀ past _ hnext h₀ hr hasked hlen (.inr ⟨hansw, hspans ▸ List.prefix_rfl⟩)
    · obtain ⟨hasked, h⟩ := hm.of_answered hasked h
      exact .asked c₀ past _ hnext h₀ hr hasked hlen (.inr h)

end Stage

theorem stage_of_run (h : (new n).run? moves = some c) : Stage n moves c := by
  refine run?_induction (P := Stage n) ?_ (fun _ _ _ _ hrun g hm => g.step hrun hm) h
  exact .unasked rfl rfl fun x hx => absurd hx List.not_mem_nil

/-! ## No span is missing -/

theorem isComplete_iff : c.isComplete = true ↔
    (∀ i, i < c.tasks.length → .actor i ∈ c.handed) ∧ .run ∈ c.handed := by
  simp [isComplete, spans, List.all_append]

theorem isComplete_of_gone (a : Ends c₀) (hr : c₀.returned = true)
    (hlen : c.tasks.length = c₀.tasks.length) (hhanded : c₀.endedSpans <+: c.handed)
    (h : ∀ t ∈ c₀.tasks, t = .gone) : c.isComplete = true := by
  refine isComplete_iff.mpr ⟨fun i hi => hhanded.subset ((a.actor_mem i).mpr ?_),
    hhanded.subset (a.run_mem.mpr ⟨hr, h⟩)⟩
  have hi := hlen ▸ hi
  exact (List.getElem?_eq_getElem hi).trans (congrArg some (h _ (List.getElem_mem hi)))

/-- With just what had ended handed over, no span is missing only if every task was gone. -/
theorem isComplete_iff_gone (a : Ends c₀) (hr : c₀.returned = true)
    (hlen : c.tasks.length = c₀.tasks.length) (hhanded : c.handed = c₀.endedSpans) :
    c.isComplete = true ↔ ∀ t ∈ c₀.tasks, t = .gone := by
  refine ⟨fun h => ?_, isComplete_of_gone a hr hlen (hhanded ▸ List.prefix_rfl)⟩
  obtain ⟨-, hrun⟩ := isComplete_iff.mp h
  exact (a.run_mem.mp (hhanded ▸ hrun)).2

/-- However the tasks, the group and the exporter move next to one another: once the exporter has answered, all
spans that had ended when it was asked are handed over, in order, and if every task was gone by then, no span
of the run is missing. At the moment of the answer nothing else is handed over, and no span is missing only if
every task was gone when the exporter was asked. -/
theorem spans_of_answered (h : (new n).run? moves = some c) :
    (c.answered = true → ∃ past c₀ later, moves = past ++ .ask :: later ∧ (new n).run? past = some c₀ ∧
      c₀.endedSpans <+: c.handed ∧ ((∀ t ∈ c₀.tasks, t = .gone) → c.isComplete = true)) ∧
    (∀ m d, c.answered = false → c.step? m = some d → d.answered = true →
      ∃ past c₀ later, moves = past ++ .ask :: later ∧ (new n).run? past = some c₀ ∧
        d.handed = c₀.endedSpans ∧ (d.isComplete = true ↔ ∀ t ∈ c₀.tasks, t = .gone)) := by
  refine ⟨fun hansw => ?_, fun m d hnot hstep hansw => ?_⟩
  · cases stage_of_run h with
    | unasked _ hnot _ => exact absurd (hnot.symm.trans hansw) Bool.false_ne_true
    | asked c₀ past later hmoves h₀ hr hasked hlen hstage =>
      obtain hwaiting | ⟨-, hspans⟩ := hstage
      · exact absurd (hwaiting.1.symm.trans hansw) Bool.false_ne_true
      · exact ⟨past, c₀, later, hmoves, h₀, hspans, isComplete_of_gone (ends_of_run h₀) hr hlen hspans⟩
  · have hm := moves_of_step? hstep
    cases stage_of_run h with
    | unasked hasked _ hflush =>
      have hne : m ≠ .ask := by
        rintro rfl
        cases hm with
        | ask hr ha => exact absurd (hnot.symm.trans hansw) Bool.false_ne_true
      obtain ⟨-, hstill, -⟩ := hm.unasked hne hasked hnot hflush
      exact absurd (hstill.symm.trans hansw) Bool.false_ne_true
    | asked c₀ past later hmoves h₀ hr hasked hlen hstage =>
      obtain hwaiting | ⟨h, -⟩ := hstage
      · obtain ⟨-, h | ⟨-, hspans⟩⟩ := hm.of_waiting hasked hwaiting
        · exact absurd (h.1.symm.trans hansw) Bool.false_ne_true
        · exact ⟨past, c₀, later, hmoves, h₀, hspans,
            isComplete_iff_gone (ends_of_run h₀) hr (hm.length_tasks.trans hlen) hspans⟩
      · exact absurd (hnot.symm.trans h) Bool.false_ne_true

/-- Both tasks are gone before the group takes their reports and the exporter is asked. -/
def patient : List ClosingMove :=
  [.report 0, .vanish 0, .report 1, .vanish 1, .take, .take, .leave, .ask, .receive, .receive, .receive]

theorem spans_of_patient : ∃ c d, (new 2).run? patient = some c ∧ c.step? .receive = some d ∧
    ∃ past c₀ later, patient = past ++ .ask :: later ∧ (new 2).run? past = some c₀ ∧
      d.handed = c₀.endedSpans ∧ ∀ t ∈ c₀.tasks, t = .gone := by
  have hrun : ((new 2).run? patient).map
      (fun c => (c.answered, (c.step? .receive).map fun d => (d.answered, d.isComplete))) =
        some (false, some (true, true)) := by
    decide
  obtain ⟨c, h, hseen⟩ := Option.map_eq_some_iff.mp hrun
  obtain ⟨hnot, hafter⟩ := Prod.mk.inj hseen
  obtain ⟨d, hstep, hseen⟩ := Option.map_eq_some_iff.mp hafter
  obtain ⟨hansw, hcomplete⟩ := Prod.mk.inj hseen
  obtain ⟨past, c₀, later, hmoves, h₀, hhanded, hgone⟩ := (spans_of_answered h).2 .receive d hnot hstep hansw
  exact ⟨c, d, h, hstep, past, c₀, later, hmoves, h₀, hhanded, hgone.mp hcomplete⟩

/-- The second task has reported and is not gone when the group returns. The exporter is asked, and answers
without its span and that of the run. -/
def hasty : List ClosingMove :=
  [.report 0, .vanish 0, .take, .report 1, .take, .leave, .ask, .receive, .receive]

theorem not_isComplete_hasty : ∃ c, (new 2).run? hasty = some c ∧ c.answered = true ∧
    c.handed = [.actor 0] ∧ c.isComplete = false := by
  have hrun : ((new 2).run? hasty).map (fun c => (c.answered, c.handed, c.isComplete)) =
      some (true, [.actor 0], false) := by
    decide
  obtain ⟨c, h, hseen⟩ := Option.map_eq_some_iff.mp hrun
  obtain ⟨hansw, hseen⟩ := Prod.mk.inj hseen
  obtain ⟨hhanded, hcomplete⟩ := Prod.mk.inj hseen
  exact ⟨c, h, hansw, hhanded, hcomplete⟩

end Closing

end MetricsGateway
