import MetricsGateway.Proofs.Server.Lifecycle
import MetricsGateway.Proofs.Services.Return

/-!
What the group of the gateway's actors comes to: the first completion that arrives decides, whatever
the other actor does then.
-/

namespace MetricsGateway

namespace Services

variable {o : ServerOptions} {s s' : Services} {said : Observed} {events : List ServicesEvent}
  {e : ServicesEvent} {i : Nat} {how : RunEnd} {x : Failure}

theorem arrived_note (s : Services) (i : Nat) : (s.note i).run.arrived = s.run.arrived := by
  obtain ⟨-, h⟩ | ⟨how, -, -, h⟩ := note_eq s i
  · rw [h]
  · rw [h]
    rfl

theorem serve?_of_step? {d : ServerEvent} (h : s.step? (.serve d) = some (said, s')) :
    d ≠ .call ∧ s.serve? d = some (said, s') := by
  cases d with
  | call | interrupt => cases h
  | pass | run => exact ⟨by simp, h⟩

/-- Completions arrive when they are reported, and at no other event. -/
theorem Linked.arrived_step (l : Linked o s) (h : s.step? e = some (said, s')) :
    s'.run.arrived.map Completion.index =
      s.run.arrived.map Completion.index ++ ServicesEvent.reports [e] := by
  cases e with
  | start =>
    obtain ⟨-, -, rfl⟩ := l.eq_of_start? h
    simp [ServicesEvent.reports, GroupRun.arrived]
  | raise signal =>
    cases h
    simp [ServicesEvent.reports]
  | interrupt actor cause =>
    obtain rfl := congrArg Prod.snd (Option.some.inj h)
    simp [ServicesEvent.reports, (runs_interrupt s actor cause).2.2]
  | watch m =>
    obtain ⟨⟨records, w⟩, -, heq⟩ := Option.map_eq_some_iff.mp h
    obtain ⟨-, rfl⟩ := Prod.mk.inj heq
    simp [ServicesEvent.reports, arrived_note]
  | serve d =>
    obtain ⟨⟨records, v⟩, -, heq⟩ := Option.map_eq_some_iff.mp (serve?_of_step? h).2
    obtain ⟨-, rfl⟩ := Prod.mk.inj heq
    simp [ServicesEvent.reports, arrived_note]
  | group m =>
    obtain ⟨what, run', hm, -, rfl⟩ := moves_of_drive? h
    rw [(runs_perform _ what).2.2]
    cases hm <;> simp_all [ServicesEvent.reports, GroupRun.arrived, GroupRun.completion]

/-- A watcher that takes a signal has ended well. -/
theorem end?_take (l : Linked o s) (h : s.watch? .take = some (said, s')) :
    s'.end? watcherIndex = some .ok := by
  obtain ⟨⟨records, w⟩, hm, heq⟩ := Option.map_eq_some_iff.mp h
  obtain ⟨-, rfl⟩ := Prod.mk.inj heq
  obtain ⟨q, q', hq, hmove, rfl⟩ := Watchers.move?_eq_some_iff.mp hm
  obtain ⟨hw, -⟩ | ⟨p, r, hw, -⟩ := l.started
  · simp [hw] at hq
  · obtain rfl : ⟨0, true, p⟩ = q := by simpa [hw] using hq
    rw [end?_note]
    cases hmove with
    | take n b backlog signal => simp [end?, Watchers.latest?, hw, WatchPhase.end?]

/-- Once the server has a run, only its own events touch it. -/
theorem Linked.server_runs_step (l : Linked o s) {r : ServerRun} (hr : s.server.runs = [r])
    (h : s.step? e = some (said, s')) : s'.server.runs = [r] ∧ (∀ d, e ≠ .serve d) ∨
      ∃ d seen v, e = .serve d ∧ d ≠ .call ∧ s.server.step? d = some (seen, v) ∧ s'.server = v := by
  cases e with
  | start =>
    obtain ⟨⟨-, hv, -⟩, -⟩ := l.eq_of_start? h
    simp [hr] at hv
  | raise signal =>
    cases h
    exact .inl ⟨hr, by simp⟩
  | interrupt actor cause =>
    obtain rfl := congrArg Prod.snd (Option.some.inj h)
    exact .inl ⟨(runs_interrupt s actor cause).2.1.trans hr, by simp⟩
  | watch m =>
    obtain ⟨⟨records, w⟩, -, heq⟩ := Option.map_eq_some_iff.mp h
    obtain ⟨-, rfl⟩ := Prod.mk.inj heq
    rw [server_note]
    exact .inl ⟨hr, by simp⟩
  | serve d =>
    obtain ⟨hd, hs⟩ := serve?_of_step? h
    obtain ⟨⟨seen, v⟩, hv, heq⟩ := Option.map_eq_some_iff.mp hs
    obtain ⟨-, rfl⟩ := Prod.mk.inj heq
    exact .inr ⟨d, seen, v, rfl, hd, hv, server_note _ _⟩
  | group m =>
    obtain ⟨what, run', -, -, rfl⟩ := moves_of_drive? h
    exact .inl ⟨(runs_perform _ what).2.1.trans hr, by simp⟩

/-- What has happened to the actors and their group, and where they stand, agree. -/
structure Traced (o : ServerOptions) (events : List ServicesEvent) (s : Services) : Prop where
  linked : Linked o s
  reports_eq : ServicesEvent.reports events = s.run.arrived.map Completion.index
  signalled : .watch .take ∈ events → s.end? watcherIndex = some .ok
  faulted : ∀ m x, .serve (.run 0 m) ∈ events → (Server.new o).fault? m = some x →
    ∃ r, s.server.runs = [r] ∧ r.failure? = some x

theorem Traced.new (o : ServerOptions) : Traced o [] (Services.new o) :=
  ⟨.new o, rfl, by simp, by simp⟩

/-- A fault that an event brings upon the server's run stays its failure. -/
theorem Traced.faulted_step (t : Traced o events s) (h : s.step? e = some (said, s')) (m : RunMove)
    (x : Failure) (hm : .serve (.run 0 m) ∈ events ++ [e]) (hx : (Server.new o).fault? m = some x) :
    ∃ r, s'.server.runs = [r] ∧ r.failure? = some x := by
  obtain ⟨r, hr⟩ : ∃ r, s.server.runs = [r] := by
    obtain ⟨-, hv, -⟩ | ⟨p, r, -, hv, -⟩ := t.linked.started
    · obtain hm | hm := List.mem_append.mp hm
      · obtain ⟨r, hr, -⟩ := t.faulted m x hm hx
        exact ⟨r, hr⟩
      · obtain rfl := List.mem_singleton.mp hm
        obtain ⟨⟨seen, v⟩, hv', -⟩ := Option.map_eq_some_iff.mp (serve?_of_step? h).2
        cases Server.steps_of_step? hv' with
        | run i q m o q' v' hq => simp [hv] at hq
    · exact ⟨r, hv⟩
  have hold : .serve (.run 0 m) ∈ events → r.failure? = some x := by
    intro hm
    obtain ⟨r', hr', hf⟩ := t.faulted m x hm hx
    rw [hr, List.singleton_inj] at hr'
    rwa [hr']
  obtain ⟨hr', hne⟩ | ⟨d, seen, v, rfl, hd, hs, rfl⟩ := t.linked.server_runs_step hr h
  · obtain hm | hm := List.mem_append.mp hm
    · exact ⟨r, hr', hold hm⟩
    · exact absurd (List.mem_singleton.mp hm).symm (hne _)
  · obtain ⟨r', hr', hf⟩ := (Server.steps_of_step? hs).failure?_iff hd hr
    refine ⟨r', hr', (hf x).mpr ?_⟩
    obtain hm | hm := List.mem_append.mp hm
    · exact .inr (hold hm)
    · have hdm := ServicesEvent.serve.inj (List.mem_singleton.mp hm)
      exact .inl ⟨m, hdm.symm, Server.fault?_of_new hx t.linked.inTurn.options_eq⟩

theorem Traced.step (t : Traced o events s) (hmax : o.maxConnections ≤ Pool.maxSize)
    (h : s.step? e = some (said, s')) : Traced o (events ++ [e]) s' := by
  obtain ⟨l, hk⟩ := t.linked.step hmax h
  refine ⟨l, ?_, fun hm => ?_, t.faulted_step h⟩
  · rw [t.linked.arrived_step h, ← t.reports_eq]
    exact List.filterMap_append ..
  · obtain hm | hm := List.mem_append.mp hm
    · exact hk _ _ (t.signalled hm)
    · obtain rfl := List.mem_singleton.mp hm
      exact end?_take t.linked h

theorem traced_of_run (hmax : o.maxConnections ≤ Pool.maxSize) {records : List Observed}
    (h : (Services.new o).run? events = some (records, s)) : Traced o events s :=
  History.run?_induction (P := fun events _ s => Traced o events s) (Traced.new o)
    (fun _ _ _ _ _ _ _ t hs => t.step hmax hs) h

theorem exitStatus_eq_zero_iff {id : Option ActorId} {name : String} :
    Outcome.exitStatus ⟨id, how.failure? name⟩ = 0 ↔ how = .ok := by
  cases how <;> simp [Outcome.exitStatus, Outcome.isSuccess, RunEnd.failure?]

/-- When the group returns both actors have ended and been told to stop. -/
theorem Linked.ended_of_outcome (l : Linked o s) {out : Outcome} (ho : s.outcome? = some out) :
    s.isWatcherStopped = true ∧ ∃ r how, s.server.runs = [r] ∧ r = .ended how := by
  obtain ⟨story, a⟩ := l.account
  obtain ⟨hlen, hdue, -⟩ := GroupRun.outcome?_eq_some_iff.mp ho
  rw [a.names_eq] at hlen
  have htaken : s.run.group.taken ≠ [] := by
    rintro hn
    simp [hn, names] at hlen
  have hrep : s.run.tasks[serverIndex]? = some .reported := by
    refine (a.mem_arrivals _).mp ((a.arrivals_perm ho).mem_iff.mpr ?_)
    simp [names, serverIndex]
  refine ⟨(l.told htaken watcherIndex (by decide)).resolve_right (by simp [hdue]), ?_⟩
  obtain ⟨-, -, hn⟩ | ⟨p, r, -, hv, -⟩ := l.started
  · simp [hn] at hrep
  · obtain ⟨how, he⟩ := Option.isSome_iff_exists.mp (l.knows _ _ hrep)
    exact ⟨r, how, hv, (end?_server hv (by decide)).mp he⟩

/-- The outcome is that of the completion that was reported first. -/
theorem Traced.outcome_eq (t : Traced o events s) {out : Outcome} (ho : s.outcome? = some out) :
    ∃ i name how, (ServicesEvent.reports events).head? = some i ∧ names[i]? = some name ∧
      s.end? i = some how ∧ out = ⟨some ⟨i, name⟩, how.failure? name⟩ := by
  obtain ⟨story, a⟩ := t.linked.account
  obtain ⟨hlen, -, rfl⟩ := GroupRun.outcome?_eq_some_iff.mp ho
  rw [a.names_eq] at hlen
  cases htaken : s.run.group.taken with
  | nil => simp [htaken, names] at hlen
  | cons c later =>
    have hc : c ∈ s.run.arrived := by simp [GroupRun.arrived, htaken]
    obtain ⟨how, he, hf⟩ := t.linked.arrived c hc
    have hi := List.mem_range.mp (a.arrivals_subset (List.mem_map.mpr ⟨c, a.arrived_eq ▸ hc, rfl⟩))
    have hn : names[c.index]? = some names[c.index] := List.getElem?_eq_getElem hi
    rw [hn, Option.getD_some] at hf
    refine ⟨c.index, names[c.index], how, ?_, hn, he, ?_⟩
    · rw [t.reports_eq, GroupRun.arrived, htaken]
      rfl
    · simp only [Group.outcome, htaken, Group.id, a.nameOf_eq hn, hf]

/-- From the options of the gateway with a limit that a pool can have, whatever signals, clients, the
system and others outside do, and in whatever order. Once an actor has ended, the group can return, and
nobody outside is needed for it, whatever the system answers when the server binds. When it has returned
the watcher was told to stop and the server is closed without a connection, and the outcome is that of
the actor whose completion came first: success exactly if that actor ended well. So it is for a watcher
that took a signal, however the server ended then, and a server that could not bind or go on accepting
gives that failure. -/
theorem outcome_of_first_completion (hmax : o.maxConnections ≤ Pool.maxSize)
    {records : List Observed} (h : (Services.new o).run? events = some (records, s)) :
    (∀ i how, s.end? i = some how → ∀ answer, ∃ more rest s',
      (∀ e ∈ more, e.isOwn = true ∧ e.Answers answer) ∧ s.run? more = some (rest, s') ∧
        s'.outcome?.isSome) ∧
    ∀ out, s.outcome? = some out →
      s.isWatcherStopped = true ∧ s.server.state = .closed ∧ s.server.active = 0 ∧
      ∃ i name how, (ServicesEvent.reports events).head? = some i ∧ names[i]? = some name ∧
        s.end? i = some how ∧ out = ⟨some ⟨i, name⟩, how.failure? name⟩ ∧
        (out.exitStatus = 0 ↔ how = .ok) ∧
        (i = watcherIndex → .watch .take ∈ events →
          out = ⟨some ⟨0, "signals"⟩, none⟩ ∧ out.exitStatus = 0) ∧
        (i = serverIndex → ∀ fault, .serve (.run 0 (.bind (.error fault))) ∈ events →
          out = ⟨some ⟨1, "server"⟩, some (.bind o.listen fault)⟩ ∧ out.exitStatus = 1) ∧
        (i = serverIndex → ∀ fault jitter, .serve (.run 0 (.failAccept fault jitter)) ∈ events →
          Failure.passes fault = false →
          out = ⟨some ⟨1, "server"⟩, some (.accept fault)⟩ ∧ out.exitStatus = 1) := by
  have t := traced_of_run hmax h
  refine ⟨fun i how he => t.linked.exists_return hmax he, fun out ho => ?_⟩
  obtain ⟨hstop, r, last, hr, hend⟩ := t.linked.ended_of_outcome ho
  obtain ⟨hclosed, hactive, -⟩ := t.linked.inTurn.fits 0 (.ended last) (by rw [hr, hend]; rfl)
  obtain ⟨i, name, how, hhead, hname, he, rfl⟩ := t.outcome_eq ho
  -- a fault of the server's run is what it ended with
  have hfault : i = serverIndex → ∀ m x, .serve (.run 0 m) ∈ events →
      (Server.new o).fault? m = some x → name = "server" ∧ how = .failed x := by
    rintro rfl m x hm hx
    obtain ⟨r', hr', hf⟩ := t.faulted m x hm hx
    rw [hr, List.singleton_inj] at hr'
    rw [← hr', (end?_server hr (by decide)).mp he] at hf
    cases how <;> simp_all [ServerRun.failure?, names, serverIndex]
  refine ⟨hstop, hclosed, hactive, i, name, how, hhead, hname, he, rfl, exitStatus_eq_zero_iff,
    ?_, ?_, ?_⟩
  · rintro rfl hm
    rw [t.signalled hm, Option.some.injEq] at he
    obtain rfl : "signals" = name := by simpa [names, watcherIndex] using hname
    subst he
    exact ⟨rfl, rfl⟩
  · rintro hi fault hm
    obtain ⟨rfl, rfl⟩ := hfault hi _ _ hm rfl
    subst hi
    exact ⟨rfl, rfl⟩
  · rintro hi fault jitter hm hp
    obtain ⟨rfl, rfl⟩ := hfault hi _ _ hm (by rw [Server.fault?, hp]; rfl)
    subst hi
    exact ⟨rfl, rfl⟩

/-- A signal comes while a connection is open, which outlasts the grace period. -/
def forcedBySignal : List ServicesEvent :=
  [.start, .watch .subscribe, .serve (.run 0 .begin), .serve (.run 0 (.bind (.ok "127.0.0.1:9090"))),
    .serve (.run 0 .acquire), .serve (.run 0 (.accept 7 "127.0.0.1:40000")), .raise .terminate,
    .watch .forward, .watch .take, .group (.report 0), .group .take, .group .act, .group .act,
    .group .act, .group .act, .serve (.run 0 .stop), .serve (.pass 5000000000),
    .serve (.run 0 .expire), .serve (.run 0 (.abort 7)), .serve (.run 0 .close), .group (.report 1),
    .group .take, .group .act, .group .act]

theorem outcome_of_forcedBySignal : ∃ records s,
    (Services.new ⟨"127.0.0.1:9090", 1, .fiveSeconds⟩).run? forcedBySignal = some (records, s) ∧
      s.server.report = some ⟨true, 1, 1⟩ ∧ s.isWatcherStopped = true ∧ s.server.active = 0 ∧
      ∃ out, s.outcome? = some out ∧ out = ⟨some ⟨0, "signals"⟩, none⟩ ∧ out.exitStatus = 0 := by
  obtain ⟨records, s, out, h, hreport, ho⟩ : ∃ records s out,
      (Services.new ⟨"127.0.0.1:9090", 1, .fiveSeconds⟩).run? forcedBySignal = some (records, s) ∧
        s.server.report = some ⟨true, 1, 1⟩ ∧ s.outcome? = some out := ⟨_, _, _, rfl, rfl, rfl⟩
  have hmax : 1 ≤ Pool.maxSize := by decide
  obtain ⟨-, hret⟩ := outcome_of_first_completion hmax h
  obtain ⟨hstop, -, hactive, i, name, how, hhead, -, -, -, -, hsignal, -⟩ := hret out ho
  have hi : 0 = i := Option.some.inj hhead
  obtain ⟨hout, hstatus⟩ := hsignal hi.symm (by simp [forcedBySignal])
  exact ⟨records, s, h, hreport, hstop, hactive, out, ho, hout, hstatus⟩

end Services

end MetricsGateway
