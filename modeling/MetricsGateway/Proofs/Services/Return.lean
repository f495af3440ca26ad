import MetricsGateway.Proofs.Server.Closing
import MetricsGateway.Proofs.Services.Linked

/-!
The return of the group of the gateway's actors: once one of them has ended, nobody outside is needed
for the group to return.
-/

namespace MetricsGateway

/-- A bound on what a stopped watcher still has to do. -/
def WatchPhase.work : WatchPhase → Nat
  | .spawned => 2
  | .waiting _ _ => 1
  | _ => 0

/-- The system gives no other answer when the server binds. -/
def ServicesEvent.Answers (answer : Except SystemFault String) (e : ServicesEvent) : Prop :=
  ∀ i outcome, e = .serve (.run i (.bind outcome)) → outcome = answer

namespace Services

variable {o : ServerOptions} {s s' : Services} {said : Observed} {i : Nat} {how : RunEnd}
  {answer : Except SystemFault String}

/-- A bound on what the stopped actors and their group still have to do. The end of an actor costs the
group up to ten units: it is reported and taken, each at five. -/
def work (s : Services) : Nat :=
  11 * s.watchers.runs.foldr (fun r n => r.phase.work + n) 0 +
    11 * s.server.runs.foldr (fun r n => r.work + n) 0 + s.run.work

theorem work_note (hn : s.run.names.length = 2) : (s.note i).work ≤ s.work + 10 := by
  obtain ⟨-, h⟩ | ⟨how, -, ht, h⟩ := note_eq s i
  · rw [h]
    exact Nat.le_add_right _ _
  · obtain ⟨hi, hrun⟩ := List.getElem?_eq_some_iff.mp ht
    have hc : (s.run.tasks.set i (.ended how)).countP RunTask.isEnded =
        s.run.tasks.countP RunTask.isEnded + 1 := by
      rw [List.countP_set hi, hrun]
      simp [RunTask.isEnded]
    have hn' : s.run.group.names.length = 2 := hn
    rw [h]
    simp only [work, GroupRun.work, GroupRun.names, hc, hn']
    omega

theorem runs_interrupt (s : Services) (i : Nat) (cause : Option Failure) :
    (s.interrupt i cause).2.watchers.runs = s.watchers.runs ∧
      (s.interrupt i cause).2.server.runs = s.server.runs ∧
      (s.interrupt i cause).2.run = s.run := by
  unfold Services.interrupt
  split
  · refine ⟨?_, rfl, rfl⟩
    simp only [Watchers.interrupt]
    split <;> rfl
  · exact ⟨rfl, rfl, rfl⟩

/-- An act of the group starts and ends nothing. -/
theorem runs_perform (s : Services) (what : GroupRun.Happening) :
    (s.perform what).2.watchers.runs = s.watchers.runs ∧
      (s.perform what).2.server.runs = s.server.runs ∧ (s.perform what).2.run = s.run := by
  unfold perform
  split
  · exact ⟨rfl, rfl, rfl⟩
  · exact ⟨rfl, rfl, rfl⟩
  · exact runs_interrupt s _ _
  · exact ⟨rfl, rfl, rfl⟩

theorem work_perform (s : Services) (what : GroupRun.Happening) :
    (s.perform what).2.work = s.work := by
  obtain ⟨hw, hv, hr⟩ := runs_perform s what
  simp only [work, hw, hv, hr]

/-- A watcher that was told to stop goes on to its end. -/
theorem exists_watch_step {p : WatchPhase} (hn : s.run.names.length = 2)
    (hw : s.watchers.runs = [⟨0, true, p⟩]) (hstop : s.isWatcherStopped = true)
    (hp : p.end? = none) :
    ∃ m said s', s.watch? m = some (said, s') ∧ s'.work < s.work := by
  obtain ⟨m, records, p', hm, hlt⟩ : ∃ m records p',
      s.watchers.Moves ⟨0, true, p⟩ m records ⟨0, true, p'⟩ ∧ p'.work < p.work := by
    cases p with
    | spawned => exact ⟨_, _, _, .subscribe 0 true, by simp [WatchPhase.work]⟩
    | waiting backlog buffer =>
      exact ⟨_, _, _, .stop 0 true backlog buffer hstop, by simp [WatchPhase.work]⟩
    | ended | refused => cases hp
  have hmove : s.watchers.move? 0 m =
      some (records, { s.watchers with runs := s.watchers.runs.set 0 ⟨0, true, p'⟩ }) :=
    Watchers.move?_eq_some_iff.mpr ⟨_, _, by rw [hw]; rfl, hm, rfl⟩
  refine ⟨m, _, _, by rw [watch?, hmove]; rfl, ?_⟩
  refine Nat.lt_of_le_of_lt (work_note hn) ?_
  simp only [work, hw, List.set_cons_zero, List.foldr_cons, List.foldr_nil]
  omega

/-- A server that was told to stop goes on to its end. -/
theorem exists_serve_step {r : ServerRun} (hn : s.run.names.length = 2) (hv : s.server.runs = [r])
    (hstop : s.server.stop.raised = true) (hr : r.isEnded = false) :
    ∃ e said s', e.isOwn = true ∧ e.Answers answer ∧ s.serve? e = some (said, s') ∧
      s'.work < s.work := by
  obtain ⟨e, records, v, r', ho, ha, hs, hv', hlt⟩ := Server.exists_step hv hstop hr
  refine ⟨e, _, _, ho, ha, by rw [serve?, hs]; rfl, ?_⟩
  refine Nat.lt_of_le_of_lt (work_note hn) ?_
  simp only [work, hv, hv', List.foldr_cons, List.foldr_nil]
  omega

/-- An own move of the group is an event, and what it brings about leaves the bound as it is. -/
theorem step?_group {m : GroupMove} {what : GroupRun.Happening} {run' : GroupRun}
    (hown : m.isOwn = true) (hm : s.run.Moves m what run') (hlt : run'.work < s.run.work) :
    ∃ said s', s.step? (.group m) = some (said, s') ∧ s'.work < s.work := by
  have hs : s.step? (.group m) = some (perform { s with run := run' } what) := by
    have hd : s.drive? m =
        (s.run.step? m).map fun h => perform { s with run := h.2 } h.1 := by
      cases m with
      | start | finish => cases hown
      | _ => rfl
    rw [step?, hd, GroupRun.step?_eq_some_iff.mpr hm]
    rfl
  have hw := work_perform { s with run := run' } what
  refine ⟨(perform { s with run := run' } what).1, (perform { s with run := run' } what).2, hs, ?_⟩
  rw [hw]
  simp only [work]
  omega

theorem step?_serve {e : ServerEvent} (ho : e.isOwn = true) (ha : e.Answers answer) :
    s.step? (.serve e) = s.serve? e ∧ (ServicesEvent.serve e).isOwn = true ∧
      (ServicesEvent.serve e).Answers answer := by
  have ha' : (ServicesEvent.serve e).Answers answer := fun i outcome h =>
    ha i outcome (ServicesEvent.serve.inj h)
  cases e with
  | call | interrupt => cases ho
  | pass | run => exact ⟨rfl, ho, ha'⟩

/-- An actor that has ended was reported and taken, if nothing of the kind is left to be done. -/
theorem Linked.taken_ne_nil (l : Linked o s) (he : s.end? i = some how) (hc : s.run.channel = [])
    (hended : ∀ (i : Nat) how, s.run.tasks[i]? ≠ some (.ended how)) :
    s.run.group.taken ≠ [] ∧ s.run.tasks.length = 2 := by
  obtain ⟨story, a⟩ := l.account
  obtain ⟨hw, hv, -⟩ | ⟨p, r, -, -, hl⟩ := l.started
  · rw [end?_new hw hv] at he
    cases he
  · refine ⟨?_, hl⟩
    obtain ⟨j, hj, hje⟩ : ∃ j < 2, s.end? j = some how := by
      by_cases hi : i = watcherIndex
      · exact ⟨i, by simp [hi, watcherIndex], he⟩
      · refine ⟨serverIndex, by simp [serverIndex], ?_⟩
        rwa [end?, if_neg hi] at he
    have hlt : j < s.run.tasks.length := hl ▸ hj
    have ht := List.getElem?_eq_getElem hlt
    have hk := l.knows j _ ht
    have hrep : s.run.tasks[j]? = some .reported := by
      cases htask : s.run.tasks[j] with
      | running =>
        rw [htask, hje] at hk
        cases hk
      | ended how =>
        rw [htask] at ht
        exact absurd ht (hended j how)
      | reported => rw [ht, htask]
    have hm := (a.mem_arrivals j).mpr hrep
    rw [a.arrived_eq, GroupRun.arrived, hc, List.append_nil] at hm
    intro hn
    simp [hn] at hm

/-- As long as the group has not returned, after the end of an actor, somebody in it can
go on, whatever the system answers when the server binds. -/
theorem Linked.exists_own_step (l : Linked o s) (he : s.end? i = some how)
    (ho : s.outcome? = none) :
    ∃ e said s', (e.isOwn = true ∧ e.Answers answer) ∧ s.step? e = some (said, s') ∧
      s'.work < s.work := by
  obtain ⟨story, a⟩ := l.account
  have hn : s.run.names.length = 2 := congrArg List.length a.names_eq
  have hlen : s.run.tasks.length = names.length := by
    obtain ⟨hw, hv, -⟩ | ⟨p, r, -, -, hl⟩ := l.started
    · rw [end?_new hw hv] at he
      cases he
    · exact hl
  obtain ⟨m, what, run', hown, hm, hlt⟩ | ⟨hd, hc, hended, j, hj⟩ := a.progress_or_wait hlen ho
  · obtain ⟨said, s', hs, hw⟩ := step?_group hown hm hlt
    exact ⟨.group m, said, s', ⟨rfl, by simp [ServicesEvent.Answers]⟩, hs, hw⟩
  · obtain ⟨ht, hl⟩ := l.taken_ne_nil he hc hended
    have hlt : j < 2 := hl ▸ (List.getElem?_eq_some_iff.mp hj).1
    have htold : s.isTold j = true := (l.told ht j hlt).resolve_right (by simp [hd])
    have hk : s.end? j = none := l.knows j _ hj
    obtain ⟨-, -, hn⟩ | ⟨p, r, hw, hv, -⟩ := l.started
    · simp [hn] at hl
    · by_cases hjw : j = watcherIndex
      · subst hjw
        rw [end?_watcher hw] at hk
        obtain ⟨m, said, s', hs, hlt⟩ := exists_watch_step hn hw htold hk
        exact ⟨.watch m, said, s', ⟨rfl, by simp [ServicesEvent.Answers]⟩, hs, hlt⟩
      · rw [isTold, if_neg hjw] at htold
        have hr : r.isEnded = false := by
          cases r with
          | ended how =>
            rw [(end?_server hv hjw).mpr rfl] at hk
            cases hk
          | _ => rfl
        obtain ⟨e, said, s', hown, ha, hs, hlt⟩ := exists_serve_step hn hv htold hr
        obtain ⟨hstep, hown'⟩ := step?_serve hown ha
        exact ⟨.serve e, said, s', hown', hstep.trans hs, hlt⟩

/-- After the end of an actor the group can return, and nobody outside is needed for it. -/
theorem Linked.exists_return (l : Linked o s) (hmax : o.maxConnections ≤ Pool.maxSize)
    (he : s.end? i = some how) (answer : Except SystemFault String) :
    ∃ more rest s', (∀ e ∈ more, e.isOwn = true ∧ e.Answers answer) ∧
      s.run? more = some (rest, s') ∧ s'.outcome?.isSome := by
  induction hw : s.work using Nat.strongRecOn generalizing s with
  | ind w ih =>
    cases ho : s.outcome? with
    | some out => exact ⟨[], [], s, by simp, History.run?_nil.mpr ⟨rfl, rfl⟩, by simp [ho]⟩
    | none =>
      obtain ⟨e, said, s', hown, hs, hlt⟩ := l.exists_own_step he ho
      obtain ⟨l', hk⟩ := l.step hmax hs
      obtain ⟨more, rest, s'', hall, hr, hsome⟩ := ih _ (hw ▸ hlt) l' (hk i how he) rfl
      refine ⟨e :: more, said :: rest, s'', ?_, History.run?_cons.mpr ⟨_, _, _, hs, hr, rfl⟩, hsome⟩
      intro d hd
      obtain rfl | hd := List.mem_cons.mp hd
      · exact hown
      · exact hall d hd

end Services

end MetricsGateway
