import MetricsGateway.Proofs.Server.Fits

/-!
A run of the server that was stopped can go on to its end without any client, whatever it is doing.
-/

namespace MetricsGateway

/-- A bound on what a stopped run still has to do. -/
def ServerRun.work : ServerRun → Nat
  | .called => 6
  | .binding => 5
  | .accepting v => v.running + 4
  | .pausing v _ => v.running + 4
  | .draining v _ left => v.running + 2 + (if left = 0 then 0 else 1)
  | .aborting v _ => v.running + 1
  | .ended _ => 0

def ServerEvent.isOwn : ServerEvent → Bool
  | .pass _ => true
  | .run _ m => m.isOwn
  | _ => false

/-- The system gives no other answer when a run binds. -/
def ServerEvent.Answers (answer : Except SystemFault String) (e : ServerEvent) : Prop :=
  ∀ i outcome, e = .run i (.bind outcome) → outcome = answer

namespace Server

variable {s : Server} {r : ServerRun} {answer : Except SystemFault String}

theorem work_begin (s : Server) : s.begin.2.1.work < ServerRun.called.work := by
  unfold Server.begin
  split
  · simp [ServerRun.work]
  · split <;> simp [ServerRun.work]

theorem work_bind (s : Server) (answer : Except SystemFault String) :
    (s.bind answer).2.1.work < ServerRun.binding.work := by
  cases answer with
  | error fault => simp [Server.bind, ServerRun.work]
  | ok address =>
    simp only [Server.bind]
    split <;> simp [ServerRun.work, Serving.running]

theorem work_drain (s : Server) (v : Serving) : (s.drain v).2.1.work < v.running + 4 := by
  have hv : Serving.running { v with listener := v.listener.cancel } = v.running := rfl
  simp only [drain, ServerRun.work, hv]
  split <;> omega

/-- A stopped run that has not ended has an event that brings it closer to its end, whatever the
system answers when it binds. -/
theorem exists_event (hstop : s.stop.raised = true) (hr : r.isEnded = false) :
    (∃ m o r' s', m.isOwn = true ∧ (ServerEvent.run 0 m).Answers answer ∧
        s.move? r m = some (o, r', s') ∧ r'.work < r.work) ∨
      ∃ nanos, (r.pass nanos).work < r.work := by
  cases r with
  | called =>
    exact .inl ⟨.begin, _, _, _, rfl, by simp [ServerEvent.Answers], rfl, work_begin s⟩
  | binding =>
    refine .inl ⟨.bind answer, _, _, _, rfl, ?_, rfl, work_bind s answer⟩
    rintro i outcome h
    cases h
    rfl
  | accepting v =>
    have hm : s.move? (.accepting v) .stop = some (s.drain v) := if_pos hstop
    exact .inl ⟨.stop, _, _, _, rfl, by simp [ServerEvent.Answers], hm, work_drain s v⟩
  | pausing v left =>
    have hm : s.move? (.pausing v left) .stop = some (s.drain v) := if_pos hstop
    exact .inl ⟨.stop, _, _, _, rfl, by simp [ServerEvent.Answers], hm, work_drain s v⟩
  | draining v inFlight left =>
    by_cases hv : v.running = 0
    · have hm : s.move? (.draining v inFlight left) .drained = some (s.drained inFlight left) :=
        if_pos hv
      refine .inl ⟨.drained, _, _, _, rfl, by simp [ServerEvent.Answers], hm, ?_⟩
      simp only [ServerRun.work]
      omega
    · by_cases hl : left = 0
      · have hm : s.move? (.draining v inFlight left) .expire = some (s.expire v inFlight) :=
          if_pos (by simpa [hl] using Nat.pos_of_ne_zero hv)
        refine .inl ⟨.expire, _, _, _, rfl, by simp [ServerEvent.Answers], hm, ?_⟩
        simp only [ServerRun.work]
        omega
      · refine .inr ⟨left, ?_⟩
        simp [ServerRun.pass, ServerRun.work, hl]
  | aborting v why =>
    by_cases hv : v.running = 0
    · have hm : s.move? (.aborting v why) .close = some (s.close why) := if_pos hv
      refine .inl ⟨.close, _, _, _, rfl, by simp [ServerEvent.Answers], hm, ?_⟩
      cases why <;> simp [ServerRun.work]
    · obtain ⟨client, hc⟩ := Serving.exists_isServing (Nat.pos_of_ne_zero hv)
      have hm : s.move? (.aborting v why) (.abort client) = some (s.abort v why client) := if_pos hc
      refine .inl ⟨.abort client, _, _, _, rfl, by simp [ServerEvent.Answers], hm, ?_⟩
      have hw := Serving.running_abort hc
      simp only [ServerRun.work]
      omega
  | ended result => cases hr

/-- A server whose only run was stopped and has not ended can go on. -/
theorem exists_step (hruns : s.runs = [r]) (hstop : s.stop.raised = true) (hr : r.isEnded = false) :
    ∃ e o s' r', e.isOwn = true ∧ e.Answers answer ∧ s.step? e = some (o, s') ∧ s'.runs = [r'] ∧
      r'.work < r.work := by
  have hr0 : s.runs[0]? = some r := by rw [hruns]; rfl
  obtain ⟨m, o, r', s', ho, ha, hm, hw⟩ | ⟨nanos, hw⟩ := exists_event hstop hr
  · exact ⟨.run 0 m, _, _, r', ho, ha, step?_run hr0 hm, by simp [hruns], hw⟩
  · refine ⟨.pass nanos, _, _, r.pass nanos, rfl, ?_, rfl, by simp [hruns], hw⟩
    simp [ServerEvent.Answers]

end Server

end MetricsGateway
