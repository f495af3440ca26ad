import MetricsGateway.Telemetry.ExportLoop

/-!
Batches of spans on their way out. Main statement: whatever reaches the task that exports spans, the batches
that it hands over and its current batch are the spans that it has received, in order and each once; none
is empty or too large, and what a flush asks for is handed over before the flush is answered.
-/

namespace MetricsGateway

namespace ExportEvent

variable {α : Type} {events more : List (ExportEvent α)} {e : ExportEvent α}

theorem spans_append : spans (events ++ more) = spans events ++ spans more :=
  List.filterMap_append

theorem spans_cons : spans (e :: events) = e.span?.toList ++ spans events := by
  cases e <;> rfl

/-- No span is on its way outside the channel. -/
theorem spans_filter_isSent (events : List (ExportEvent α)) :
    spans (events.filter isSent) = spans events := by
  induction events with
  | nil => rfl
  | cons e events ih =>
    cases e with
    | tick => exact ih
    | _ => rw [List.filter_cons_of_pos rfl, spans_cons, spans_cons, ih]

end ExportEvent

namespace SpanExport

open ExportEvent

variable {α : Type} {batch out : List α} {e : ExportEvent α} {events before after : List (ExportEvent α)}

theorem length_nil_lt : ([] : List α).length < batchLimit := Nat.zero_lt_succ 511

theorem step_span (record : α) (h : batch.length + 1 < batchLimit) :
    step batch (.span record) = (none, batch ++ [record]) := by
  rw [step, List.length_append, List.length_singleton, if_neg (by omega)]

theorem step_span_full (record : α) (h : batchLimit ≤ batch.length + 1) :
    step batch (.span record) = (some (batch ++ [record]), []) := by
  rw [step, List.length_append, List.length_singleton, if_pos h]

theorem step_of_span?_eq_none (batch : List α) (h : e.span? = none) :
    step batch e = if batch.isEmpty then (none, []) else (some batch, []) := by
  cases e with
  | span record => cases h
  | _ => rfl

/-- Whatever comes but a span leaves nothing in the batch. -/
theorem snd_step_of_span?_eq_none (batch : List α) (h : e.span? = none) : (step batch e).2 = [] := by
  rw [step_of_span?_eq_none batch h]
  split <;> rfl

/-- What a step does: it adds a span to the batch, fills the batch and hands it over, finds nothing to hand
over, or hands over what there is. -/
theorem step_cases (batch : List α) (e : ExportEvent α) :
    (∃ record, e = .span record ∧ batch.length + 1 < batchLimit ∧
      step batch e = (none, batch ++ [record])) ∨
    (∃ record, e = .span record ∧ batchLimit ≤ batch.length + 1 ∧
      step batch e = (some (batch ++ [record]), [])) ∨
    (e.span? = none ∧ batch = [] ∧ step batch e = (none, [])) ∨
    (e.span? = none ∧ batch ≠ [] ∧ step batch e = (some batch, [])) := by
  cases hrecord : e.span? with
  | some record =>
    have he : e = .span record := by
      cases e with
      | span other => exact congrArg ExportEvent.span (Option.some.inj hrecord)
      | _ => cases hrecord
    subst he
    obtain hlt | hle := Nat.lt_or_ge (batch.length + 1) batchLimit
    · exact .inl ⟨record, rfl, hlt, step_span record hlt⟩
    · exact .inr (.inl ⟨record, rfl, hle, step_span_full record hle⟩)
  | none =>
    have hstep := step_of_span?_eq_none batch hrecord
    cases batch with
    | nil => exact .inr (.inr (.inl ⟨rfl, rfl, hstep⟩))
    | cons first rest => exact .inr (.inr (.inr ⟨rfl, List.cons_ne_nil _ _, hstep⟩))

theorem flatten_step (batch : List α) (e : ExportEvent α) :
    (step batch e).1.toList.flatten ++ (step batch e).2 = batch ++ e.span?.toList := by
  obtain ⟨record, rfl, -, h⟩ | ⟨record, rfl, -, h⟩ | ⟨he, rfl, h⟩ | ⟨he, -, h⟩ := step_cases batch e
  · rw [h]
    rfl
  · rw [h]
    simp [span?]
  · rw [h, he]
    rfl
  · rw [h, he]
    simp

theorem run_cons : run batch (e :: events) =
    ((step batch e).1.toList ++ (run (step batch e).2 events).1, (run (step batch e).2 events).2) := rfl

theorem run_append : run batch (before ++ after) =
    ((run batch before).1 ++ (run (run batch before).2 after).1,
      (run (run batch before).2 after).2) := by
  induction before generalizing batch with
  | nil => rfl
  | cons e before ih =>
    rw [List.cons_append, run_cons, ih, run_cons]
    simp only [List.append_assoc]

/-- Nothing is lost, doubled or moved. -/
theorem flatten_run (batch : List α) (events : List (ExportEvent α)) :
    (run batch events).1.flatten ++ (run batch events).2 = batch ++ spans events := by
  induction events generalizing batch with
  | nil => exact (List.append_nil batch).symm
  | cons e events ih =>
    rw [run_cons, List.flatten_append, List.append_assoc, ih, ← List.append_assoc, flatten_step,
      List.append_assoc, spans_cons]

theorem length_step_lt (h : batch.length < batchLimit) : (step batch e).2.length < batchLimit := by
  obtain ⟨record, rfl, hlt, heq⟩ | ⟨record, rfl, -, heq⟩ | ⟨-, -, heq⟩ | ⟨-, -, heq⟩ :=
    step_cases batch e
  · rw [heq, List.length_append]
    exact hlt
  all_goals
    rw [heq]
    exact Nat.lt_of_le_of_lt (Nat.zero_le _) h

theorem fits_step (h : batch.length < batchLimit) (hout : (step batch e).1 = some out) :
    out ≠ [] ∧ out.length ≤ batchLimit := by
  obtain ⟨record, rfl, hlt, heq⟩ | ⟨record, rfl, -, heq⟩ | ⟨-, -, heq⟩ | ⟨-, hne, heq⟩ :=
    step_cases batch e
  · rw [heq] at hout
    cases hout
  · rw [heq] at hout
    obtain rfl := Option.some.inj hout
    refine ⟨List.append_ne_nil_of_right_ne_nil _ (List.cons_ne_nil _ _), ?_⟩
    rw [List.length_append]
    exact h
  · rw [heq] at hout
    cases hout
  · rw [heq] at hout
    obtain rfl := Option.some.inj hout
    exact ⟨hne, Nat.le_of_lt h⟩

theorem fits_run (h : batch.length < batchLimit) (hout : out ∈ (run batch events).1) :
    out ≠ [] ∧ out.length ≤ batchLimit := by
  induction events generalizing batch with
  | nil => cases hout
  | cons e events ih =>
    rw [run_cons] at hout
    obtain hfirst | hmore := List.mem_append.mp hout
    · exact fits_step h (Option.mem_toList.mp hfirst)
    · exact ih (length_step_lt h) hmore

/-- Whatever comes but a span, all spans before it are handed over at once. -/
theorem spans_isPrefix_run (before after : List (ExportEvent α)) (he : e.span? = none) :
    spans before <+: (run [] (before ++ e :: after)).1.flatten := by
  have hbatch : (step (run [] before).2 e).2 = [] := snd_step_of_span?_eq_none _ he
  have hall : (run [] before).1.flatten ++ (step (run [] before).2 e).1.toList.flatten =
      spans before := by
    have hstep := flatten_step (run ([] : List α) before).2 e
    rw [hbatch, he, List.append_nil, Option.toList_none, List.append_nil] at hstep
    rw [hstep, flatten_run, List.nil_append]
  refine ⟨(run [] after).1.flatten, ?_⟩
  rw [run_append, run_cons, hbatch, List.flatten_append, List.flatten_append, ← List.append_assoc, hall]

end SpanExport

namespace ExportMove

variable {α : Type}

def sent? : ExportMove α → Option (ExportEvent α)
  | send e => some e
  | _ => none

def isReceive : ExportMove α → Bool
  | receive => true
  | _ => false

/-- What is sent in a run, in order. -/
def sent (moves : List (ExportMove α)) : List (ExportEvent α) := moves.filterMap sent?

/-- What the task receives in a run: as much of what is sent as it asks for. -/
def received (moves : List (ExportMove α)) : List (ExportEvent α) :=
  (sent moves).take (moves.countP isReceive)

variable {moves : List (ExportMove α)} {m : ExportMove α} {e : ExportEvent α}
  {rest : List (ExportEvent α)}

theorem sent_concat (moves : List (ExportMove α)) (m : ExportMove α) :
    sent (moves ++ [m]) = sent moves ++ m.sent?.toList := by
  rw [sent, List.filterMap_append]
  cases m <;> rfl

theorem received_concat (hreceive : m.isReceive = false) (h : moves.countP isReceive ≤ (sent moves).length) :
    received (moves ++ [m]) = received moves := by
  rw [received, sent_concat, List.countP_append, List.countP_singleton, hreceive, if_neg Bool.false_ne_true,
    Nat.add_zero, List.take_append_of_le_length h, received]

theorem received_concat_receive (hlen : (received moves).length = moves.countP isReceive)
    (h : received moves ++ e :: rest = sent moves) :
    received (moves ++ [.receive]) = received moves ++ [e] := by
  have hall : sent (moves ++ [.receive]) = (received moves ++ [e]) ++ rest := by
    rw [sent_concat, ← h]
    simp [sent?]
  rw [received, hall, List.countP_append, ← hlen]
  exact List.take_left' List.length_append

end ExportMove

namespace ExportReport

variable {α : Type}

def takenIn (reports : List (ExportReport α)) : List (ExportEvent α) := reports.filterMap (·.taken)

def handedIn (reports : List (ExportReport α)) : List (List α) := reports.filterMap (·.handed)

/-- How many flushes are answered. -/
def answersIn (reports : List (ExportReport α)) : Nat := reports.countP (·.answered)

variable (reports : List (ExportReport α)) (report : ExportReport α)

theorem takenIn_concat : takenIn (reports ++ [report]) = takenIn reports ++ report.taken.toList := by
  rw [takenIn, List.filterMap_append, takenIn]
  cases h : report.taken <;> simp [h]

theorem handedIn_concat : handedIn (reports ++ [report]) = handedIn reports ++ report.handed.toList := by
  rw [handedIn, List.filterMap_append, handedIn]
  cases h : report.handed <;> simp [h]

theorem answersIn_concat : answersIn (reports ++ [report]) = answersIn reports + report.answered.toNat := by
  rw [answersIn, List.countP_append, List.countP_singleton, answersIn]
  cases report.answered <;> rfl

end ExportReport

namespace ExportLoop

open ExportEvent ExportMove ExportReport

variable {α : Type} {exporter : TraceExporter} {s s' : ExportLoop α} {m : ExportMove α}
  {moves : List (ExportMove α)} {report : ExportReport α} {reports : List (ExportReport α)}

/-- A flush was received and waits for its answer. -/
def owes (s : ExportLoop α) : Bool :=
  match s.phase with
  | .exporting _ cause => cause.isFlush
  | _ => false

/-- The moves of the task and what they bring about. -/
inductive Moves (s : ExportLoop α) : ExportMove α → ExportReport α → ExportLoop α → Prop where
  | send (e : ExportEvent α) (hopen : s.isOpen = true) (hsent : e.isSent = true) :
      Moves s (.send e) .silent { s with channel := s.channel ++ [e], isOpen := !e.isClose }
  | receive (e : ExportEvent α) (rest : List (ExportEvent α)) (hphase : s.phase = .waiting)
      (hchannel : s.channel = e :: rest) :
      Moves s .receive ({ s with channel := rest }.take e).1 ({ s with channel := rest }.take e).2
  | tick (hphase : s.phase = .waiting) : Moves s .tick (s.take .tick).1 (s.take .tick).2
  | conclude (m : ExportMove α) (batch : List α) (cause : ExportEvent α) (records : List LogRecord)
      (hphase : s.phase = .exporting batch cause) (hsent : m.sent? = none) (hreceive : m.isReceive = false) :
      Moves s m (s.conclude cause records).1 (s.conclude cause records).2

theorem moves_of_move? (h : s.move? m = some (report, s')) : s.Moves m report s' := by
  cases m with
  | send e =>
    simp only [move?, Option.ite_none_right_eq_some, Bool.and_eq_true, Option.some.injEq,
      Prod.mk.injEq] at h
    obtain ⟨⟨hopen, hsent⟩, rfl, rfl⟩ := h
    exact .send e hopen hsent
  | receive =>
    simp only [move?] at h
    split at h
    · next e rest hphase hchannel =>
      obtain ⟨rfl, rfl⟩ := Prod.mk.inj (Option.some.inj h)
      exact .receive e rest hphase hchannel
    · cases h
  | tick =>
    simp only [move?] at h
    split at h
    · next hphase =>
      obtain ⟨rfl, rfl⟩ := Prod.mk.inj (Option.some.inj h)
      exact .tick hphase
    · cases h
  | printed =>
    simp only [move?] at h
    split at h
    · next hphase =>
      obtain ⟨rfl, rfl⟩ := Prod.mk.inj (Option.some.inj h)
      exact .conclude _ _ _ _ hphase rfl rfl
    · cases h
  | delivered d =>
    simp only [move?] at h
    split at h
    · next hphase =>
      obtain ⟨rfl, rfl⟩ := Prod.mk.inj (Option.some.inj h)
      exact .conclude _ _ _ _ hphase rfl rfl
    · cases h

/-- What the task does with an event, in the terms of what is told of it. -/
theorem take_spec (s : ExportLoop α) (e : ExportEvent α) :
    (s.take e).1.taken = some e ∧ (s.take e).1.handed = (SpanExport.step s.batch e).1 ∧
      (s.take e).2.batch = (SpanExport.step s.batch e).2 ∧ (s.take e).2.channel = s.channel ∧
      (s.take e).2.isOpen = s.isOpen ∧
      (s.take e).1.answered.toNat + (s.take e).2.owes.toNat = e.isFlush.toNat := by
  unfold take
  split
  · next out batch hstep =>
    rw [hstep]
    exact ⟨rfl, rfl, rfl, rfl, rfl, Nat.zero_add _⟩
  · next batch hstep =>
    rw [hstep]
    refine ⟨rfl, rfl, rfl, rfl, rfl, ?_⟩
    cases e <;> rfl

/-- What the state of the task tells about its run so far: the channel holds what is sent and not received,
what it took from there is what it received, its batches are those of the events that it took, each flush
that it took is answered or waits for the batch that it asked for, and the end of all spans is sent last. -/
structure Account (moves : List (ExportMove α)) (reports : List (ExportReport α)) (s : ExportLoop α) :
    Prop where
  channel_eq : received moves ++ s.channel = sent moves
  length_received : (received moves).length = moves.countP isReceive
  isSent_of : ∀ e ∈ sent moves, e.isSent = true
  taken_eq : (takenIn reports).filter isSent = received moves
  run_eq : SpanExport.run [] (takenIn reports) = (handedIn reports, s.batch)
  answers_add : answersIn reports + s.owes.toNat = (takenIn reports).countP isFlush
  close_last : ∀ before after, sent moves = before ++ .close :: after → after = []
  open_of : s.isOpen = true → .close ∉ sent moves

namespace Account

theorem new : Account [] [] (new exporter : ExportLoop α) where
  channel_eq := rfl
  length_received := rfl
  isSent_of _ h := by cases h
  taken_eq := rfl
  run_eq := rfl
  answers_add := rfl
  close_last before after h := by
    have hlen := congrArg List.length h
    simp [sent] at hlen
  open_of _ h := by cases h

theorem countP_le (a : Account moves reports s) : moves.countP isReceive ≤ (sent moves).length := by
  rw [← a.channel_eq, ← a.length_received, List.length_append]
  exact Nat.le_add_right _ _

theorem send {e : ExportEvent α} (a : Account moves reports s) (hopen : s.isOpen = true)
    (hsent : e.isSent = true) :
    Account (moves ++ [.send e]) (reports ++ [.silent])
      { s with channel := s.channel ++ [e], isOpen := !e.isClose } := by
  have hreceived : received (moves ++ [.send e]) = received moves := received_concat rfl a.countP_le
  have htaken : takenIn (reports ++ [.silent]) = takenIn reports := by
    rw [takenIn_concat]
    exact List.append_nil _
  have hall : sent (moves ++ [.send e]) = sent moves ++ [e] := sent_concat moves (.send e)
  refine ⟨?_, ?_, ?_, ?_, ?_, ?_, ?_, ?_⟩
  · rw [hreceived, hall, ← a.channel_eq, List.append_assoc]
  · rw [hreceived, a.length_received, List.countP_append]
    rfl
  · intro other hother
    rw [hall] at hother
    obtain hbefore | hnow := List.mem_append.mp hother
    · exact a.isSent_of other hbefore
    · exact List.mem_singleton.mp hnow ▸ hsent
  · rw [htaken, hreceived, a.taken_eq]
  · rw [htaken, a.run_eq, handedIn_concat]
    exact congrArg (·, s.batch) (List.append_nil _).symm
  · rw [htaken, ← a.answers_add, answersIn_concat]
    rfl
  · intro before after h
    rw [hall] at h
    obtain rfl | ⟨more, last, rfl⟩ := List.eq_nil_or_concat after
    · rfl
    · rw [List.concat_eq_append, ← List.cons_append, ← List.append_assoc] at h
      have hclose : .close ∈ sent moves := by
        rw [(List.append_inj' h rfl).1]
        exact List.mem_append_right _ List.mem_cons_self
      exact absurd hclose (a.open_of hopen)
  · intro hstill hclose
    rw [hall] at hclose
    obtain hbefore | hnow := List.mem_append.mp hclose
    · exact a.open_of hopen hbefore
    · obtain rfl := List.mem_singleton.mp hnow
      cases hstill

theorem took {e : ExportEvent α} (channel : List (ExportEvent α)) (a : Account moves reports s)
    (howes : s.owes = false) (hreceive : received (moves ++ [m]) = received moves ++ [e].filter isSent)
    (hchannel : [e].filter isSent ++ channel = s.channel) (hsent : m.sent? = none)
    (hlen : ([e].filter isSent).length = [m].countP isReceive) :
    Account (moves ++ [m]) (reports ++ [({ s with channel }.take e).1]) ({ s with channel }.take e).2 := by
  obtain ⟨htaken, hhanded, hbatch, hrest, hopen, hanswer⟩ := take_spec { s with channel } e
  have hall : sent (moves ++ [m]) = sent moves := by
    rw [sent_concat, hsent]
    exact List.append_nil _
  have htook : takenIn (reports ++ [({ s with channel }.take e).1]) = takenIn reports ++ [e] := by
    rw [takenIn_concat, htaken]
    rfl
  refine ⟨?_, ?_, ?_, ?_, ?_, ?_, ?_, ?_⟩
  · rw [hreceive, hall, hrest, List.append_assoc, hchannel, a.channel_eq]
  · rw [hreceive, List.length_append, a.length_received, hlen, List.countP_append]
  · rw [hall]
    exact a.isSent_of
  · rw [htook, hreceive, List.filter_append, a.taken_eq]
  · rw [htook, SpanExport.run_append, a.run_eq, handedIn_concat, hhanded, hbatch]
    simp only [SpanExport.run, List.append_nil]
  · have hadd := a.answers_add
    rw [howes] at hadd
    rw [htook, answersIn_concat, Nat.add_assoc, hanswer, List.countP_append, ← hadd,
      List.countP_singleton]
    cases e.isFlush <;> rfl
  · rw [hall]
    exact a.close_last
  · rw [hall, hopen]
    exact a.open_of

theorem conclude {cause : ExportEvent α} {batch : List α} {records : List LogRecord}
    (a : Account moves reports s) (hphase : s.phase = .exporting batch cause) (hsent : m.sent? = none)
    (hreceive : m.isReceive = false) :
    Account (moves ++ [m]) (reports ++ [(s.conclude cause records).1]) (s.conclude cause records).2 := by
  have hall : sent (moves ++ [m]) = sent moves := by
    rw [sent_concat, hsent]
    exact List.append_nil _
  have hreceived : received (moves ++ [m]) = received moves := received_concat hreceive a.countP_le
  have htaken : takenIn (reports ++ [(s.conclude cause records).1]) = takenIn reports := by
    rw [takenIn_concat]
    exact List.append_nil _
  have hhanded : handedIn (reports ++ [(s.conclude cause records).1]) = handedIn reports := by
    rw [handedIn_concat]
    exact List.append_nil _
  have howed : s.owes = cause.isFlush := by rw [owes, hphase]
  have hpaid : (s.conclude cause records).2.owes = false := by
    rw [owes, ExportLoop.conclude]
    cases cause.isClose <;> rfl
  refine ⟨?_, ?_, ?_, ?_, ?_, ?_, ?_, ?_⟩
  · rw [hreceived, hall]
    exact a.channel_eq
  · rw [hreceived, a.length_received, List.countP_append, List.countP_singleton, hreceive]
    rfl
  · rw [hall]
    exact a.isSent_of
  · rw [htaken, hreceived, a.taken_eq]
  · rw [htaken, hhanded]
    exact a.run_eq
  · rw [htaken, ← a.answers_add, answersIn_concat, hpaid, howed]
    rfl
  · rw [hall]
    exact a.close_last
  · rw [hall]
    exact a.open_of

theorem step (a : Account moves reports s) (h : s.move? m = some (report, s')) :
    Account (moves ++ [m]) (reports ++ [report]) s' := by
  cases moves_of_move? h with
  | send e hopen hsent => exact a.send hopen hsent
  | receive e rest hphase hchannel =>
    have hchannel_eq := a.channel_eq
    rw [hchannel] at hchannel_eq
    have he : e ∈ sent moves := by
      rw [← hchannel_eq]
      exact List.mem_append_right _ List.mem_cons_self
    have hsent : [e].filter isSent = [e] := List.filter_cons_of_pos (a.isSent_of e he)
    have howes : s.owes = false := by rw [owes, hphase]
    refine a.took rest howes ?_ ?_ rfl ?_
    · rw [hsent]
      exact received_concat_receive a.length_received hchannel_eq
    · rw [hsent, hchannel]
      rfl
    · rw [hsent]
      rfl
  | tick hphase =>
    have howes : s.owes = false := by rw [owes, hphase]
    exact a.took s.channel howes
      ((received_concat rfl a.countP_le).trans (List.append_nil _).symm) rfl rfl rfl
  | conclude m batch cause records hphase hsent hreceive => exact a.conclude hphase hsent hreceive

end Account

theorem account_of_run (h : (new exporter).run? moves = some (reports, s)) : Account moves reports s :=
  History.run?_induction (P := Account) .new (fun _ _ _ _ _ _ _ a hstep => a.step hstep) h

/-- When a flush is answered, nothing is being handed over. -/
theorem waiting_of_answered (h : s.move? m = some (report, s')) (hanswered : report.answered = true) :
    s'.phase = .waiting := by
  have hgoesOn {e : ExportEvent α} (he : e.isFlush = true) : e.isClose = false := by
    cases e <;> first | rfl | cases he
  have htake (t : ExportLoop α) (e : ExportEvent α) (ht : (t.take e).1.answered = true) :
      (t.take e).2.phase = .waiting := by
    unfold take at ht ⊢
    split at ht
    · cases ht
    · exact if_neg (Bool.eq_false_iff.mp (hgoesOn ht))
  cases moves_of_move? h with
  | send e hopen hsent => cases hanswered
  | receive e rest hphase hchannel => exact htake _ e hanswered
  | tick hphase => exact htake s .tick hanswered
  | conclude _ batch cause records hphase hsent hreceive =>
    exact if_neg (Bool.eq_false_iff.mp (hgoesOn hanswered))

/-! ## Every order of events -/

section Deals

variable {e : ExportEvent α} {rest : List (ExportEvent α)}

theorem move?_receive (hphase : s.phase = .waiting) (hchannel : s.channel = e :: rest) :
    s.move? .receive = some ({ s with channel := rest }.take e) := by
  simp only [move?, hphase, hchannel]

theorem move?_tick (hphase : s.phase = .waiting) : s.move? .tick = some (s.take .tick) := by
  simp only [move?, hphase]

/-- However handing over a batch ends, it ends what its event asked for. -/
theorem exists_conclude {batch : List α} (d : SpanExport.Delivery) (hphase : s.phase = .exporting batch e) :
    ∃ m records, s.move? m = some (s.conclude e records) := by
  cases hexporter : s.exporter with
  | stdout => exact ⟨.printed, [], by simp only [move?, hexporter, hphase]⟩
  | jaeger =>
    exact ⟨.delivered d, [SpanExport.delivered batch.length d], by simp only [move?, hexporter, hphase]⟩

/-- An event that is taken is dealt with, and all that stays is in the channel. -/
theorem exists_deal (d : SpanExport.Delivery) (s : ExportLoop α) (e : ExportEvent α) :
    ∃ moves reports s', (s.take e).2.run? moves = some (reports, s') ∧ takenIn reports = [] ∧
      s'.phase = (if e.isClose then .over else .waiting) ∧ s'.channel = s.channel ∧
      s'.isOpen = s.isOpen := by
  obtain ⟨-, -, -, hchannel, hopen, -⟩ := take_spec s e
  cases hstep : SpanExport.step s.batch e with
  | mk out batch =>
    cases out with
    | none =>
      refine ⟨[], [], (s.take e).2, History.run?_nil.mpr ⟨rfl, rfl⟩, rfl, ?_, hchannel, hopen⟩
      simp only [take, hstep, conclude]
    | some out =>
      have hphase : (s.take e).2.phase = .exporting out e := by simp only [take, hstep]
      obtain ⟨m, records, hm⟩ := exists_conclude d hphase
      exact ⟨[m], _, _, History.run?_single hm, rfl, rfl, hchannel, hopen⟩

/-- The task waits, and there is nothing in its channel yet. -/
structure Idle (s : ExportLoop α) : Prop where
  waiting : s.phase = .waiting
  isOpen : s.isOpen = true
  channel_eq : s.channel = []

/-- Whatever comes next is dealt with, and unless it is the end of all spans, more can come. -/
theorem Idle.exists_run (d : SpanExport.Delivery) (hs : s.Idle) (e : ExportEvent α) :
    ∃ moves reports s', s.run? moves = some (reports, s') ∧ takenIn reports = [e] ∧
      (e.isClose = false → s'.Idle) := by
  cases he : e.isSent with
  | true =>
    have hsend : s.move? (.send e) =
        some (.silent, { s with channel := s.channel ++ [e], isOpen := !e.isClose }) := by
      simp only [move?, hs.isOpen, he, Bool.and_self, if_true]
    obtain ⟨t, ht⟩ : ∃ t : ExportLoop α, t = { s with channel := [], isOpen := !e.isClose } := ⟨_, rfl⟩
    have hreceive : move? { s with channel := s.channel ++ [e], isOpen := !e.isClose } .receive =
        some (t.take e) := by
      rw [ht]
      exact move?_receive hs.waiting (congrArg (· ++ [e]) hs.channel_eq)
    obtain ⟨moves, reports, s', hrun, htaken, hphase, hchannel, hopen⟩ := exists_deal d t e
    refine ⟨.send e :: .receive :: moves, .silent :: (t.take e).1 :: reports, s',
      History.run?_cons.mpr ⟨_, _, _, hsend, History.run?_cons.mpr ⟨_, _, _, hreceive, hrun, rfl⟩, rfl⟩,
      ?_, fun hgoesOn => ⟨?_, ?_, ?_⟩⟩
    · rw [takenIn, List.filterMap_cons_none rfl, List.filterMap_cons_some (take_spec t e).1]
      exact congrArg (e :: ·) htaken
    · rw [hphase, hgoesOn]
      rfl
    · rw [hopen, ht, hgoesOn]
      rfl
    · rw [hchannel, ht]
  | false =>
    have htick : e = .tick := by
      cases e with
      | tick => rfl
      | _ => cases he
    subst htick
    obtain ⟨moves, reports, s', hrun, htaken, hphase, hchannel, hopen⟩ := exists_deal d s .tick
    refine ⟨.tick :: moves, (s.take .tick).1 :: reports, s',
      History.run?_cons.mpr ⟨_, _, _, move?_tick hs.waiting, hrun, rfl⟩, ?_,
      fun _ => ⟨hphase, hopen.trans hs.isOpen, hchannel.trans hs.channel_eq⟩⟩
    rw [takenIn, List.filterMap_cons_some (take_spec s .tick).1]
    exact congrArg (ExportEvent.tick :: ·) htaken

end Deals

/-- The task takes events in any order in which they can come, however handing over its batches ends. -/
theorem exists_run_of_events (d : SpanExport.Delivery) (events : List (ExportEvent α))
    (hlast : ∀ before after, events = before ++ .close :: after → after = []) :
    ∃ moves reports s, (new exporter).run? moves = some (reports, s) ∧ takenIn reports = events := by
  suffices hmore : ∀ s : ExportLoop α, s.Idle → ∃ moves reports s',
      s.run? moves = some (reports, s') ∧ takenIn reports = events from hmore (new exporter) ⟨rfl, rfl, rfl⟩
  induction events with
  | nil => exact fun s _ => ⟨[], [], s, History.run?_nil.mpr ⟨rfl, rfl⟩, rfl⟩
  | cons e events ih =>
    intro s hs
    obtain ⟨moves, reports, s', hrun, htaken, hidle⟩ := hs.exists_run d e
    cases hclose : e.isClose with
    | true =>
      have he : e = .close := by
        cases e with
        | close => rfl
        | _ => cases hclose
      have hnone : events = [] := hlast [] events (congrArg (· :: events) he)
      exact ⟨moves, reports, s', hrun, by rw [htaken, hnone]⟩
    | false =>
      obtain ⟨more, further, t, hmore, hrest⟩ :=
        ih (fun before after h => hlast (e :: before) after (congrArg (e :: ·) h)) s' (hidle hclose)
      refine ⟨moves ++ more, reports ++ further, t, History.run?_append hrun hmore, ?_⟩
      rw [takenIn, List.filterMap_append]
      exact (congrArg (· ++ _) htaken).trans (congrArg (e :: ·) hrest)

/-! ## Spans on their way out -/

namespace Account

theorem spans_received (a : Account moves reports s) : spans (received moves) = spans (takenIn reports) := by
  rw [← a.taken_eq, spans_filter_isSent]

theorem flatten_handed (a : Account moves reports s) :
    (handedIn reports).flatten ++ s.batch = spans (received moves) := by
  have hall := SpanExport.flatten_run [] (takenIn reports)
  rw [a.run_eq, List.nil_append] at hall
  rw [a.spans_received, hall]

/-- What is received is a first part of what is sent. -/
theorem received_of_lt (a : Account moves reports s) {p : ExportEvent α → Bool} {e : ExportEvent α}
    {before after : List (ExportEvent α)} (h : sent moves = before ++ e :: after)
    (hlt : before.countP p < (received moves).countP p) :
    ∃ rest, received moves = before ++ e :: rest := by
  have hsplit := a.channel_eq.trans h
  obtain ⟨more, hbefore, -⟩ | ⟨more, hreceived, hmore⟩ := List.append_eq_append_iff.mp hsplit
  · rw [hbefore, List.countP_append] at hlt
    omega
  · cases more with
    | nil =>
      rw [hreceived, List.append_nil] at hlt
      exact absurd hlt (Nat.lt_irrefl _)
    | cons first rest =>
      obtain ⟨rfl, -⟩ := List.cons.inj hmore
      exact ⟨rest, hreceived⟩

/-- The spans before anything but a span that was received are handed over. -/
theorem spans_isPrefix (a : Account moves reports s) {e : ExportEvent α}
    {before after : List (ExportEvent α)} (he : e.span? = none)
    (h : received moves = before ++ e :: after) :
    spans before <+: (handedIn reports).flatten := by
  obtain ⟨first, rest, htaken, hfirst, hrest⟩ := List.filter_eq_append_iff.mp (a.taken_eq.trans h)
  obtain ⟨between, last, rfl, hbetween, -, -⟩ := List.filter_eq_cons_iff.mp hrest
  have hbefore : spans before = spans (first ++ between) := by
    have hnone : between.filter isSent = [] := List.filter_eq_nil_iff.mpr hbetween
    rw [← hfirst, spans_filter_isSent, spans_append, ← spans_filter_isSent between, hnone]
    exact (List.append_nil _).symm
  have hprefix := SpanExport.spans_isPrefix_run (first ++ between) last he
  rw [List.append_assoc, ← htaken, a.run_eq] at hprefix
  exact hbefore ▸ hprefix

end Account

/-- However spans, flushes and the end of all spans are sent and received and the interval passes in between,
and however handing over ends: the batches that were handed over and the current batch are the spans that
were received, in order and each once. No batch is empty or larger than the limit. The spans that were sent
before a flush that is answered were handed over before, and nothing is being handed over when it is
answered. Once the end of all spans is received, all of them were handed over. -/
theorem batches_carry_spans (h : (new exporter : ExportLoop α).run? moves = some (reports, s)) :
    (handedIn reports).flatten ++ s.batch = spans (received moves) ∧
    (∀ out ∈ handedIn reports, out ≠ [] ∧ out.length ≤ SpanExport.batchLimit) ∧
    (∀ before after : List (ExportEvent α), sent moves = before ++ .flush :: after →
      before.countP isFlush < answersIn reports → spans before <+: (handedIn reports).flatten) ∧
    (∀ m report s', s.move? m = some (report, s') → report.answered = true → s'.phase = .waiting) ∧
    (.close ∈ received moves → s.batch = [] ∧ (handedIn reports).flatten = spans (sent moves)) := by
  have a : Account moves reports s := account_of_run h
  refine ⟨a.flatten_handed, fun out hout => ?_, fun before after hsent hanswered => ?_,
    fun m report s' hmove => waiting_of_answered hmove, fun hclose => ?_⟩
  · have hrun : (SpanExport.run [] (takenIn reports)).1 = handedIn reports := congrArg Prod.fst a.run_eq
    rw [← hrun] at hout
    exact SpanExport.fits_run SpanExport.length_nil_lt hout
  · have hcount : answersIn reports ≤ (received moves).countP isFlush := by
      have hflush : (takenIn reports).countP isFlush = (received moves).countP isFlush := by
        rw [← a.taken_eq, List.countP_filter]
        exact List.countP_congr fun e _ => by cases e <;> exact Iff.rfl
      rw [← hflush, ← a.answers_add]
      exact Nat.le_add_right _ _
    obtain ⟨rest, hreceived⟩ := a.received_of_lt hsent (Nat.lt_of_lt_of_le hanswered hcount)
    exact a.spans_isPrefix rfl hreceived
  · obtain ⟨before, after, hreceived⟩ := List.append_of_mem hclose
    have hsent : sent moves = before ++ .close :: (after ++ s.channel) := by
      rw [← a.channel_eq, hreceived, List.append_assoc, List.cons_append]
    obtain ⟨rfl, hchannel⟩ := List.append_eq_nil_iff.mp (a.close_last _ _ hsent)
    have hall : received moves = sent moves := by
      rw [← a.channel_eq, hchannel, List.append_nil]
    have hspans : spans (received moves) = spans before := by
      rw [hreceived, spans_append]
      exact List.append_nil _
    obtain ⟨more, hmore⟩ := a.spans_isPrefix rfl hreceived
    have hhanded := a.flatten_handed
    rw [hspans, ← hmore, List.append_assoc] at hhanded
    obtain ⟨rfl, hbatch⟩ := List.append_eq_nil_iff.mp (List.append_right_eq_self.mp hhanded)
    exact ⟨hbatch, by rw [← hmore, List.append_nil, ← hspans, hall]⟩

/-- Two spans come before a flush and one after it; the interval passes while the task waits, and the
collector takes one batch and refuses the other. -/
def interrupted : List (ExportMove Nat) :=
  [.send (.span 1), .tick, .send (.span 2), .receive, .send .flush, .receive, .send (.span 3), .receive,
    .delivered (.answered 200), .receive, .tick, .delivered (.answered 503), .send .close, .receive]

theorem batches_carry_interrupted : ∃ reports s,
    (new .jaeger : ExportLoop Nat).run? interrupted = some (reports, s) ∧
      handedIn reports = [[1, 2], [3]] ∧ answersIn reports = 1 ∧ .close ∈ received interrupted ∧
      [1, 2] <+: (handedIn reports).flatten ∧ s.batch = [] := by
  have hrun : ((new .jaeger : ExportLoop Nat).run? interrupted).map
      (fun out => (handedIn out.1, answersIn out.1)) = some ([[1, 2], [3]], 1) := by
    decide
  obtain ⟨⟨reports, s⟩, h, htold⟩ := Option.map_eq_some_iff.mp hrun
  obtain ⟨hhanded, hanswers⟩ := Prod.mk.inj htold
  have hclose : ExportEvent.close ∈ received interrupted := by
    exact List.mem_append_right [ExportEvent.span 1, .span 2, .flush, .span 3] List.mem_cons_self
  obtain ⟨-, -, hflush, -, hend⟩ := batches_carry_spans h
  exact ⟨reports, s, h, hhanded, hanswers, hclose,
    hflush [.span 1, .span 2] [.span 3, .close] rfl (by rw [hanswers]; decide), (hend hclose).1⟩

end ExportLoop

end MetricsGateway
