import MetricsGateway.Connections.Server

/-!
The moves of a run of the server, case by case, and the events of a server.
-/

namespace MetricsGateway

namespace Server

variable {s s' : Server} {r r' : ServerRun} {m : RunMove} {o : Observed}

/-- Where a move takes a run and the server. -/
inductive Moves (s : Server) : ServerRun → RunMove → Observed → ServerRun → Server → Prop where
  | refuse (h : s.state = .closed) :
      Moves s .called .begin .none (.ended (.failed .serverClosed)) s
  | skip (h : s.state ≠ .closed) (hs : s.stop.raised = true) :
      Moves s .called .begin .none (.ended .ok) { s with state := .closed }
  | begin (h : s.state ≠ .closed) (hs : s.stop.raised = false) :
      Moves s .called .begin .none .binding s
  | bindFail (fault : SystemFault) :
      Moves s .binding (.bind (.error fault)) .none
        (.ended (.failed (.bind s.options.listen fault))) { s with state := .closed }
  | bindPanic (address : String) (h : Pool.maxSize < s.options.maxConnections) :
      Moves s .binding (.bind (.ok address)) (.said ((bound s.options address).take 1))
        (.ended .panicked) s
  | listen (address : String) (h : s.options.maxConnections ≤ Pool.maxSize) :
      Moves s .binding (.bind (.ok address)) (.said (bound s.options address))
        (.accepting ⟨.new s.options.maxConnections, 0, []⟩) { s with state := .listening address }
  | acquire (v : Serving) (h : v.listener.permitted = false) (hf : v.listener.permits.free ≠ 0) :
      Moves s (.accepting v) .acquire .none (.accepting { v with listener := v.listener.acquire }) s
  | accept (v : Serving) (client : Nat) (peer : String) (h : v.listener.permitted = true)
      (hnew : ∀ t ∈ v.tasks, t.client ≠ client) :
      Moves s (.accepting v) (.accept client peer) (s.accept v client peer).1
        (.accepting { v with
          listener := v.listener.handOver
          failures := 0
          tasks := v.tasks ++ [⟨client, .running⟩] })
        { s with active := s.active + 1, opened := s.opened + 1 }
  | retry (v : Serving) (fault : SystemFault) (jitter : Nat) (h : v.listener.permitted = true)
      (hp : Failure.passes fault = true) (failures delay : Nat)
      (hn : failures = min (v.failures + 1) maxFailures)
      (hd : delay = (Backoff.delay failures Backoff.acceptBase Backoff.acceptCap jitter).getD 0) :
      Moves s (.accepting v) (.failAccept fault jitter) (.said [retrying fault failures delay])
        (.pausing { v with listener := v.listener.cancel, failures } (delay * 1000000)) s
  | fail (v : Serving) (fault : SystemFault) (jitter : Nat) (h : v.listener.permitted = true)
      (hp : Failure.passes fault = false) :
      Moves s (.accepting v) (.failAccept fault jitter) (.said [acceptFailed fault])
        (.aborting { v with listener := v.listener.cancel } (.failed fault)) s
  | collect (v : Serving) (t : ConnectionTask) (ht : t ∈ v.tasks) (h : t.state ≠ .running) :
      Moves s (.accepting v) .collect (.said (if t.state = .crashed then [taskFailed t] else []))
        (.accepting { v with listener := v.listener.cancel, tasks := v.tasks.erase t }) s
  | resume (v : Serving) : Moves s (.pausing v 0) .resume .none (.accepting v) s
  | stopAccepting (v : Serving) (h : s.stop.raised = true) :
      Moves s (.accepting v) .stop (.said [drainStarted s.active s.options.gracePeriod])
        (.draining { v with listener := v.listener.cancel } s.active s.options.gracePeriod.nanos)
        { s with state := .draining }
  | stopPausing (v : Serving) (left : Nat) (h : s.stop.raised = true) :
      Moves s (.pausing v left) .stop (.said [drainStarted s.active s.options.gracePeriod])
        (.draining { v with listener := v.listener.cancel } s.active s.options.gracePeriod.nanos)
        { s with state := .draining }
  | finishAccepting (v : Serving) (client : Nat) (crashed : Bool) (h : v.isServing client = true) :
      Moves s (.accepting v) (.finish client crashed) ⟨[], [.openConnections (s.active - 1)]⟩
        (.accepting (v.finish client (if crashed then .crashed else .done)))
        { s with active := s.active - 1 }
  | finishPausing (v : Serving) (left client : Nat) (crashed : Bool)
      (h : v.isServing client = true) :
      Moves s (.pausing v left) (.finish client crashed) ⟨[], [.openConnections (s.active - 1)]⟩
        (.pausing (v.finish client (if crashed then .crashed else .done)) left)
        { s with active := s.active - 1 }
  | finishDraining (v : Serving) (inFlight left client : Nat) (crashed : Bool)
      (h : v.isServing client = true) :
      Moves s (.draining v inFlight left) (.finish client crashed)
        ⟨[], [.openConnections (s.active - 1)]⟩
        (.draining (v.finish client (if crashed then .crashed else .done)) inFlight left)
        { s with active := s.active - 1 }
  | drained (v : Serving) (inFlight left : Nat) (h : v.running = 0) :
      Moves s (.draining v inFlight left) .drained (s.drained inFlight left).1 (.ended .ok)
        { s with state := .closed, report := some ⟨false, inFlight, 0⟩ }
  | expire (v : Serving) (inFlight : Nat) (h : 0 < v.running) :
      Moves s (.draining v inFlight 0) .expire .none
        (.aborting v (.expired ⟨true, inFlight, s.active⟩)) s
  | abort (v : Serving) (why : AbortReason) (client : Nat) (h : v.isServing client = true) :
      Moves s (.aborting v why) (.abort client) ⟨[], [.openConnections (s.active - 1)]⟩
        (.aborting (v.abort client) why) { s with active := s.active - 1 }
  | closeFailed (v : Serving) (fault : SystemFault) (h : v.running = 0) :
      Moves s (.aborting v (.failed fault)) .close (.said [stopped])
        (.ended (.failed (.accept fault))) { s with state := .closed }
  | closeExpired (v : Serving) (report : DrainReport) (h : v.running = 0) :
      Moves s (.aborting v (.expired report)) .close (s.close (.expired report)).1 (.ended .ok)
        { s with state := .closed, report := some report }

theorem moves_begin (h : s.begin = (o, r', s')) : s.Moves .called .begin o r' s' := by
  unfold Server.begin at h
  split at h
  · cases h
    exact .refuse ‹_›
  · split at h
    · cases h
      exact .skip ‹_› ‹_›
    · cases h
      exact .begin ‹_› (Bool.eq_false_iff.mpr ‹_›)

theorem moves_bind {outcome : Except SystemFault String} (h : s.bind outcome = (o, r', s')) :
    s.Moves .binding (.bind outcome) o r' s' := by
  cases outcome with
  | error fault =>
    cases h
    exact .bindFail fault
  | ok address =>
    simp only [Server.bind] at h
    split at h
    · cases h
      exact .bindPanic address ‹_›
    · cases h
      exact .listen address (Nat.le_of_not_lt ‹_›)

theorem moves_failAccept {v : Serving} {fault : SystemFault} {jitter : Nat}
    (hp : v.listener.permitted = true) (h : s.failAccept v fault jitter = (o, r', s')) :
    s.Moves (.accepting v) (.failAccept fault jitter) o r' s' := by
  simp only [failAccept] at h
  split at h
  · cases h
    exact .retry v fault jitter hp ‹_› _ _ rfl rfl
  · cases h
    exact .fail v fault jitter hp (Bool.eq_false_iff.mpr ‹_›)

theorem moves_collect {v : Serving} (h : s.collect? v = some (o, r', s')) :
    s.Moves (.accepting v) .collect o r' s' := by
  obtain ⟨t, ht, heq⟩ := Option.map_eq_some_iff.mp h
  cases heq
  exact .collect v t (List.mem_of_find?_eq_some ht) (by simpa using List.find?_some ht)

theorem moves_of_move? (h : s.move? r m = some (o, r', s')) : s.Moves r m o r' s' := by
  unfold move? at h
  split at h
  · exact moves_begin (Option.some.inj h)
  · exact moves_bind (Option.some.inj h)
  · next v =>
    simp only [Bool.or_eq_true, decide_eq_true_eq, Option.ite_none_left_eq_some, not_or,
      Bool.not_eq_true, Option.some.injEq, Prod.mk.injEq] at h
    obtain ⟨⟨hp, hf⟩, rfl, rfl, rfl⟩ := h
    exact .acquire v hp hf
  · next v client peer =>
    simp only [Bool.and_eq_true, Bool.not_eq_true', List.any_eq_false, decide_eq_true_eq,
      Option.ite_none_right_eq_some, Option.some.injEq] at h
    obtain ⟨⟨hp, hnew⟩, heq⟩ := h
    cases heq
    exact .accept v client peer hp hnew
  · next v fault jitter =>
    simp only [Option.ite_none_right_eq_some, Option.some.injEq] at h
    exact moves_failAccept h.1 h.2
  · exact moves_collect h
  · next v =>
    simp only [Option.ite_none_right_eq_some, Option.some.injEq] at h
    obtain ⟨hs, heq⟩ := h
    cases heq
    exact .stopAccepting v hs
  · next v client crashed =>
    simp only [Option.ite_none_right_eq_some, Option.some.injEq] at h
    obtain ⟨hc, heq⟩ := h
    cases heq
    exact .finishAccepting v client crashed hc
  · next v left =>
    simp only [Option.ite_none_right_eq_some, Option.some.injEq] at h
    obtain ⟨rfl, heq⟩ := h
    cases heq
    exact .resume v
  · next v left =>
    simp only [Option.ite_none_right_eq_some, Option.some.injEq] at h
    obtain ⟨hs, heq⟩ := h
    cases heq
    exact .stopPausing v left hs
  · next v left client crashed =>
    simp only [Option.ite_none_right_eq_some, Option.some.injEq] at h
    obtain ⟨hc, heq⟩ := h
    cases heq
    exact .finishPausing v left client crashed hc
  · next v inFlight left client crashed =>
    simp only [Option.ite_none_right_eq_some, Option.some.injEq] at h
    obtain ⟨hc, heq⟩ := h
    cases heq
    exact .finishDraining v inFlight left client crashed hc
  · next v inFlight left =>
    simp only [Option.ite_none_right_eq_some, Option.some.injEq] at h
    obtain ⟨hr, heq⟩ := h
    cases heq
    exact .drained v inFlight left hr
  · next v inFlight left =>
    simp only [Bool.and_eq_true, decide_eq_true_eq, Option.ite_none_right_eq_some,
      Option.some.injEq] at h
    obtain ⟨⟨rfl, hr⟩, heq⟩ := h
    cases heq
    exact .expire v inFlight hr
  · next v why client =>
    simp only [Option.ite_none_right_eq_some, Option.some.injEq] at h
    obtain ⟨hc, heq⟩ := h
    cases heq
    exact .abort v why client hc
  · next v why =>
    simp only [Option.ite_none_right_eq_some, Option.some.injEq] at h
    obtain ⟨hr, heq⟩ := h
    cases why with
    | failed fault =>
      cases heq
      exact .closeFailed v fault hr
    | expired report =>
      cases heq
      exact .closeExpired v report hr
  · cases h

theorem Moves.runs_eq (hm : s.Moves r m o r' s') : s'.runs = s.runs := by
  cases hm <;> rfl

theorem Moves.options_eq (hm : s.Moves r m o r' s') : s'.options = s.options := by
  cases hm <;> rfl

theorem Moves.stop_eq (hm : s.Moves r m o r' s') : s'.stop = s.stop := by
  cases hm <;> rfl

theorem Moves.not_isEnded (hm : s.Moves r m o r' s') : r.isEnded = false := by
  cases hm <;> rfl

/-- Where an event takes the server. -/
inductive Steps (s : Server) : ServerEvent → Observed → Server → Prop where
  | call : Steps s .call .none { s with runs := s.runs ++ [.called] }
  | interrupt (cause : Option Failure) :
      Steps s (.interrupt cause) (s.interrupt cause).1 { s with stop := s.stop.raise.2 }
  | pass (nanos : Nat) :
      Steps s (.pass nanos) .none { s with runs := s.runs.map (ServerRun.pass nanos) }
  | run (i : Nat) (r : ServerRun) (m : RunMove) (o : Observed) (r' : ServerRun) (s' : Server)
      (hr : s.runs[i]? = some r) (hm : s.Moves r m o r' s') :
      Steps s (.run i m) o { s' with runs := s.runs.set i r' }

/-- A run after a further one was called. -/
theorem getElem?_called {runs : List ServerRun} {i : Nat} (h : (runs ++ [.called])[i]? = some r) :
    runs[i]? = some r ∨ i = runs.length ∧ r = .called := by
  obtain hi | hi := Nat.lt_or_ge i runs.length
  · rw [List.getElem?_append_left hi] at h
    exact .inl h
  · rw [List.getElem?_append_right hi, List.getElem?_singleton] at h
    split at h
    · exact .inr ⟨by omega, (Option.some.inj h).symm⟩
    · cases h

/-- A run after one of them has moved. -/
theorem getElem?_moved {runs : List ServerRun} {i j : Nat} (h : (runs.set i r')[j]? = some r) :
    i = j ∧ r = r' ∨ i ≠ j ∧ runs[j]? = some r := by
  by_cases hij : i = j
  · subst j
    have hi : i < runs.length := by simpa using (List.getElem?_eq_some_iff.mp h).1
    rw [List.getElem?_set_self hi, Option.some.injEq] at h
    exact .inl ⟨rfl, h.symm⟩
  · rw [List.getElem?_set_ne hij] at h
    exact .inr ⟨hij, h⟩

/-- A run after some time has passed. -/
theorem getElem?_passed {runs : List ServerRun} {i nanos : Nat}
    (h : (runs.map (ServerRun.pass nanos))[i]? = some r) :
    ∃ q, runs[i]? = some q ∧ r = q.pass nanos := by
  rw [List.getElem?_map, Option.map_eq_some_iff] at h
  obtain ⟨q, hq, rfl⟩ := h
  exact ⟨q, hq, rfl⟩

theorem steps_of_step? {e : ServerEvent} (h : s.step? e = some (o, s')) : s.Steps e o s' := by
  cases e with
  | call =>
    cases h
    exact .call
  | interrupt cause =>
    cases h
    exact .interrupt cause
  | pass nanos =>
    cases h
    exact .pass nanos
  | run i m =>
    simp only [step?, Option.bind_eq_bind, Option.bind_eq_some_iff, Option.pure_def,
      Option.some.injEq, Prod.exists] at h
    obtain ⟨r, hr, o', r', t, hm, heq⟩ := h
    obtain ⟨rfl, rfl⟩ := Prod.mk.inj heq
    have hm := moves_of_move? hm
    rw [hm.runs_eq]
    exact .run i r m o' r' t hr hm

theorem Steps.stop_raised {e : ServerEvent} (hs : s.Steps e o s') (h : s.stop.raised = true) :
    s'.stop.raised = true := by
  cases hs with
  | interrupt => exact StopFlag.raise_raised _
  | run i r m o r' s' hr hm => simpa [hm.stop_eq] using h
  | call | pass => exact h

theorem Steps.no_run {e : ServerEvent} (hs : s.Steps e o s') (hcall : e ≠ .call) (h : s.runs = []) :
    s'.runs = [] := by
  cases hs with
  | call => exact absurd rfl hcall
  | run i r m o r' s' hr => simp [h] at hr
  | interrupt | pass => simp [h]

/-- The only run goes on, and once it has ended it stays as it is. -/
theorem Steps.one_run {e : ServerEvent} (hs : s.Steps e o s') (hcall : e ≠ .call)
    (h : s.runs = [r]) : ∃ r', s'.runs = [r'] ∧ ∀ how, r = .ended how → r' = .ended how := by
  cases hs with
  | call => exact absurd rfl hcall
  | interrupt => exact ⟨r, h, fun _ he => he⟩
  | pass nanos => exact ⟨r.pass nanos, by simp [h], fun how he => by rw [he]; rfl⟩
  | run i q m o r' s' hq hm =>
    rw [h, List.getElem?_singleton] at hq
    split at hq
    · next hi =>
      obtain rfl := Option.some.inj hq
      refine ⟨r', by simp [h, hi], fun how he => ?_⟩
      have hne := hm.not_isEnded
      rw [he] at hne
      cases hne
    · cases hq

theorem step?_run {i : Nat} (hr : s.runs[i]? = some r) (hm : s.move? r m = some (o, r', s')) :
    s.step? (.run i m) = some (o, { s' with runs := s.runs.set i r' }) := by
  simp only [step?, hr, hm, Option.bind_eq_bind, Option.bind_some, Option.pure_def,
    (moves_of_move? hm).runs_eq]

theorem step?_of_inTurn? {e : ServerEvent} (h : s.inTurn? e = some (o, s')) :
    s.step? e = some (o, s') ∧ (e = .call → ∀ r ∈ s.runs, r.isEnded = true) := by
  cases e with
  | call =>
    simp only [inTurn?, List.all_eq_true, Option.ite_none_right_eq_some] at h
    exact ⟨h.2, fun _ => h.1⟩
  | _ => exact ⟨h, by simp⟩

end Server

end MetricsGateway
