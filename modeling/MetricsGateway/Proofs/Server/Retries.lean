import MetricsGateway.Proofs.Connections.Backoff
import MetricsGateway.Proofs.Server.Permits

/-!
Attempts to accept that fail. Main statement: faults that pass by themselves are counted from the last client on
and only make a run pause, for a time that grows with their number; any other fault ends the run with just this
fault, after its connections; and an interrupt ends a pause.
-/

namespace MetricsGateway

/-- What an attempt to accept came to: a client or a fault. -/
def RunMove.result? : RunMove → Option (Except SystemFault Nat)
  | .accept client _ => some (.ok client)
  | .failAccept fault _ => some (.error fault)
  | _ => none

namespace ServerEvent

variable {i : Nat} {events : List ServerEvent} {e : ServerEvent}

/-- What the attempts of a run to accept come to in the course of a history. -/
def results (i : Nat) (events : List ServerEvent) : List (Except SystemFault Nat) :=
  (events.filterMap (move? i)).filterMap RunMove.result?

theorem mem_filterMap_move? {m : RunMove} : m ∈ events.filterMap (move? i) ↔ .run i m ∈ events := by
  rw [List.mem_filterMap]
  constructor
  · rintro ⟨e, he, hm⟩
    cases e with
    | run j m' =>
      obtain ⟨rfl, rfl⟩ := Option.ite_some_none_eq_some.mp hm
      exact he
    | _ => cases hm
  · exact fun he => ⟨_, he, if_pos rfl⟩

theorem mem_results {x : Except SystemFault Nat} :
    x ∈ results i events ↔ ∃ m, .run i m ∈ events ∧ m.result? = some x :=
  List.mem_filterMap.trans (exists_congr fun _ => and_congr_left' mem_filterMap_move?)

end ServerEvent

/-! ## Counting faults -/

variable {results earlier : List (Except SystemFault Nat)} {fault : SystemFault} {client : Nat}

def AllPass (results : List (Except SystemFault Nat)) : Prop :=
  ∀ fault, .error fault ∈ results → Failure.passes fault = true

/-- How many passing faults there are since a client was accepted last. -/
def passingInRow (results : List (Except SystemFault Nat)) : Nat :=
  (results.reverse.takeWhile (!·.isOk)).countP fun
    | .ok _ => false
    | .error fault => Failure.passes fault

theorem allPass_nil : AllPass [] := nofun

theorem AllPass.concat_ok (h : AllPass results) : AllPass (results ++ [.ok client]) := by
  intro fault hm
  obtain hm | hm := List.mem_append.mp hm
  · exact h fault hm
  · cases List.mem_singleton.mp hm

theorem AllPass.concat_error (h : AllPass results) (hp : Failure.passes fault = true) :
    AllPass (results ++ [.error fault]) := by
  intro f hm
  obtain hm | hm := List.mem_append.mp hm
  · exact h f hm
  · cases List.mem_singleton.mp hm
    exact hp

theorem passingInRow_concat_ok : passingInRow (results ++ [.ok client]) = 0 := by
  simp [passingInRow, Except.isOk, Except.toBool]

theorem passingInRow_concat_error (hp : Failure.passes fault = true) :
    passingInRow (results ++ [.error fault]) = passingInRow results + 1 := by
  simp [passingInRow, Except.isOk, Except.toBool, hp]

/-- Where a run stands after its attempts to accept came to these results. Only a fault that does not pass, and
that comes last, makes it abort its connections and end with a fault of accepting. -/
def ServerRun.Agrees (results : List (Except SystemFault Nat)) : ServerRun → Prop
  | .called | .binding => results = []
  | .accepting v | .pausing v _ => v.failures = min (passingInRow results) Server.maxFailures ∧ AllPass results
  | .draining _ _ _ | .aborting _ (.expired _) | .ended .ok => AllPass results
  | .aborting _ (.failed fault) | .ended (.failed (.accept fault)) =>
    ∃ earlier, results = earlier ++ [.error fault] ∧ Failure.passes fault = false ∧ AllPass earlier
  | .ended _ => results = []

/-- A fault that does not pass is the last one. -/
theorem ServerRun.Agrees.of_fault {r : ServerRun} (h : r.Agrees results) (hm : .error fault ∈ results)
    (hp : Failure.passes fault = false) :
    (∃ v, r = .aborting v (.failed fault)) ∨ r = .ended (.failed (.accept fault)) := by
  have hnot (hpass : AllPass results) : False := by
    rw [hpass fault hm] at hp
    cases hp
  have hlast {f : SystemFault} (hend : ∃ earlier, results = earlier ++ [.error f] ∧
      Failure.passes f = false ∧ AllPass earlier) : f = fault := by
    obtain ⟨earlier, rfl, -, hpass⟩ := hend
    obtain hm | hm := List.mem_append.mp hm
    · rw [hpass fault hm] at hp
      cases hp
    · cases List.mem_singleton.mp hm
      rfl
  cases r with
  | called | binding => exact absurd h (List.ne_nil_of_mem hm)
  | accepting v | pausing v left => exact (hnot h.2).elim
  | draining v inFlight left => exact (hnot h).elim
  | aborting v why =>
    cases why with
    | failed f =>
      obtain rfl := hlast h
      exact .inl ⟨v, rfl⟩
    | expired report => exact (hnot h).elim
  | ended result =>
    cases result with
    | ok => exact (hnot h).elim
    | panicked => exact absurd h (List.ne_nil_of_mem hm)
    | failed f =>
      cases f with
      | accept f =>
        obtain rfl := hlast h
        exact .inr rfl
      | _ => exact absurd h (List.ne_nil_of_mem hm)

/-- A run that has made attempts ends without a fault or with one that does not pass. -/
theorem ServerRun.Agrees.of_ended {result : RunEnd} (h : (ServerRun.ended result).Agrees results)
    (hne : results ≠ []) : result = .ok ∨ ∃ fault earlier, result = .failed (.accept fault) ∧
      results = earlier ++ [.error fault] ∧ Failure.passes fault = false ∧ AllPass earlier := by
  cases result with
  | ok => exact .inl rfl
  | panicked => exact absurd h hne
  | failed f =>
    cases f with
    | accept fault =>
      obtain ⟨earlier, hlast, hp, hpass⟩ := h
      exact .inr ⟨fault, earlier, rfl, hlast, hp, hpass⟩
    | _ => exact absurd h hne

/-- Has the run been told to stop, or did it end without a fault? -/
def ServerRun.isStopping : ServerRun → Bool
  | .draining _ _ _ | .aborting _ (.expired _) | .ended .ok => true
  | _ => false

namespace Server

variable {s s' : Server} {r r' : ServerRun} {m : RunMove} {o : Observed} {v : Serving} {options : ServerOptions}
  {events : List ServerEvent} {said : List Observed} {e : ServerEvent} {i jitter : Nat}

theorem Moves.agrees (hm : s.Moves r m o r' s') (h : r.Agrees results) :
    r'.Agrees (results ++ [m].filterMap RunMove.result?) := by
  have hsame : results ++ [] = results := List.append_nil results
  cases hm with
  | accept v client peer =>
    refine ⟨?_, h.2.concat_ok⟩
    change 0 = min (passingInRow (results ++ [.ok client])) maxFailures
    rw [passingInRow_concat_ok, Nat.zero_min]
  | retry v fault jitter hpermit hp failures delay hn hd =>
    refine ⟨?_, h.2.concat_error hp⟩
    have hv : v.failures = min (passingInRow results) maxFailures := h.1
    change failures = min (passingInRow (results ++ [.error fault])) maxFailures
    rw [passingInRow_concat_error hp, hn, hv]
    omega
  | fail v fault jitter hpermit hp => exact ⟨results, rfl, hp, h.2⟩
  | refuse | begin | bindFail | bindPanic => exact hsame.trans h
  | skip =>
    obtain rfl : results = [] := h
    exact allPass_nil
  | listen =>
    obtain rfl : results = [] := h
    exact ⟨rfl, allPass_nil⟩
  | stopAccepting | stopPausing => exact hsame.symm ▸ h.2
  | abort v why => cases why <;> exact hsame.symm ▸ h
  | _ => exact hsame.symm ▸ h

theorem agrees_pass {nanos : Nat} : (r.pass nanos).Agrees results ↔ r.Agrees results := by
  cases r <;> rfl

/-- What holds of a run that was just called, and is kept by its moves and as time passes, holds of every run with
the moves it has made. -/
theorem runs_induction {P : List RunMove → ServerRun → Prop} (called : P [] .called)
    (pass : ∀ moves r nanos, P moves r → P moves (r.pass nanos))
    (move : ∀ moves s r m o r' s', Moves s r m o r' s' → P moves r → P (moves ++ [m]) r')
    (h : (new options).run? events = some (said, s)) :
    ∀ (i : Nat) r, s.runs[i]? = some r → P (events.filterMap (ServerEvent.move? i)) r := by
  refine History.run?_induction
    (P := fun events _ s => ∀ (i : Nat) r, s.runs[i]? = some r → P (events.filterMap (ServerEvent.move? i)) r)
    (fun i r hr => by simp [new] at hr) (fun events said s e o s' hrun ih hs j q hq => ?_) h
  rw [List.filterMap_append]
  cases steps_of_step? hs with
  | call =>
    obtain hq | ⟨hj, rfl⟩ := getElem?_called hq
    · exact (List.append_nil _).symm ▸ ih j q hq
    · have hfresh : ∀ m, .run j m ∉ events := fun m hm =>
        absurd ((balance_of_run hrun).moved j m hm) (by omega)
      rw [ServerEvent.filterMap_move?_eq_nil hfresh]
      exact called
  | interrupt cause => exact (List.append_nil _).symm ▸ ih j q hq
  | pass nanos =>
    obtain ⟨r, hr, rfl⟩ := getElem?_passed hq
    exact (List.append_nil _).symm ▸ pass _ r nanos (ih j r hr)
  | run i r m o r' s' hr hm =>
    obtain ⟨rfl, rfl⟩ | ⟨hij, hq⟩ := getElem?_moved hq
    · simpa [ServerEvent.move?] using move _ s r m o q s' hm (ih i r hr)
    · simpa [ServerEvent.move?, hij] using ih j q hq

/-- Every run stands where its attempts to accept have brought it. -/
theorem agrees_of_run (h : (new options).run? events = some (said, s)) :
    ∀ (i : Nat) r, s.runs[i]? = some r → r.Agrees (ServerEvent.results i events) := by
  refine runs_induction (P := fun moves r => r.Agrees (moves.filterMap RunMove.result?)) rfl
    (fun _ _ _ => agrees_pass.mpr) (fun moves s r m o r' s' hm ih => ?_) h
  rw [List.filterMap_append]
  exact hm.agrees ih

/-! ## Stopping and aborting -/

theorem Moves.isStopping (hm : s.Moves r m o r' s') (h : r.isStopping = true ∨ m = .stop) :
    r'.isStopping = true := by
  cases hm with
  | abort v why => cases why <;> simp_all [ServerRun.isStopping]
  | _ => simp_all [ServerRun.isStopping]

theorem Moves.isStopping_or (hm : s.Moves r m o r' s') (h : r'.isStopping = true) :
    r.isStopping = true ∨ s.stop.raised = true := by
  cases hm with
  | skip _ hs | stopAccepting v hs | stopPausing v left hs => exact .inr hs
  | finishDraining | drained | expire | closeExpired => exact .inl rfl
  | abort v why => cases why <;> exact .inl h
  | _ => cases h

theorem isStopping_pass {nanos : Nat} : (r.pass nanos).isStopping = r.isStopping := by
  cases r <;> rfl

/-- A run that has stopped goes on stopping. -/
theorem isStopping_of_run (h : (new options).run? events = some (said, s)) (hr : s.runs[i]? = some r)
    (hstop : .run i .stop ∈ events) : r.isStopping = true := by
  refine runs_induction (P := fun moves r => .stop ∈ moves → r.isStopping = true) nofun
    (fun moves r nanos ih hm => isStopping_pass.trans (ih hm)) (fun moves s r m o r' s' hm ih hmem => ?_)
    h i r hr (ServerEvent.mem_filterMap_move?.mpr hstop)
  obtain hmem | hmem := List.mem_append.mp hmem
  · exact hm.isStopping (.inl (ih hmem))
  · exact hm.isStopping (.inr (List.mem_singleton.mp hmem).symm)

/-- Runs stop only when the server was interrupted. -/
theorem raised_of_isStopping (h : (new options).run? events = some (said, s)) :
    ∀ (i : Nat) r, s.runs[i]? = some r → r.isStopping = true → s.stop.raised = true := by
  refine History.run?_induction
    (P := fun _ _ s => ∀ (i : Nat) r, s.runs[i]? = some r → r.isStopping = true → s.stop.raised = true)
    (fun i r hr => by simp [new] at hr) (fun events said s e o s' _ ih hs j q hq hstops => ?_) h
  refine (steps_of_step? hs).stop_raised ?_
  cases steps_of_step? hs with
  | call =>
    obtain hq | ⟨-, rfl⟩ := getElem?_called hq
    · exact ih j q hq hstops
    · cases hstops
  | interrupt cause => exact ih j q hq hstops
  | pass nanos =>
    obtain ⟨r, hr, rfl⟩ := getElem?_passed hq
    exact ih j r hr (isStopping_pass ▸ hstops)
  | run i r m o r' s' hr hm =>
    obtain ⟨rfl, rfl⟩ | ⟨-, hq⟩ := getElem?_moved hq
    · exact (hm.isStopping_or hstops).elim (ih i r hr) id
    · exact ih j q hq hstops

/-- A run that cannot go on accepting aborts its connections one by one and ends with the fault. -/
theorem exists_end_of_failed {clients : List Nat} (hr : s.runs[i]? = some (.aborting v (.failed fault)))
    (hd : v.Distinct) (hc : v.clients = clients) : ∃ said t,
    s.run? (clients.map (fun client => .run i (.abort client)) ++ [.run i .close]) = some (said, t) ∧
      t.runs[i]? = some (.ended (.failed (.accept fault))) := by
  have hi : i < s.runs.length := (List.getElem?_eq_some_iff.mp hr).1
  induction clients generalizing s v with
  | nil =>
    have hrunning : v.running = 0 := Serving.length_clients.symm.trans (congrArg List.length hc)
    have hm : s.move? (.aborting v (.failed fault)) .close = some (s.close (.failed fault)) := if_pos hrunning
    exact ⟨_, _, History.run?_single (step?_run hr hm), List.getElem?_set_self hi⟩
  | cons client clients ih =>
    have hserved : v.isServing client = true := Serving.mem_clients.mp (hc ▸ List.mem_cons_self)
    have hm : s.move? (.aborting v (.failed fault)) (.abort client) = some (s.abort v (.failed fault) client) :=
      if_pos hserved
    have hrest : (v.abort client).clients = clients := by
      have hnodup := hd.nodup_clients
      rw [hd.clients_abort, ← hnodup.erase_eq_filter, hc, List.erase_cons_head]
    obtain ⟨o, t, hstep, hruns⟩ : ∃ o t, s.step? (.run i (.abort client)) = some (o, t) ∧
        t.runs = s.runs.set i (.aborting (v.abort client) (.failed fault)) := ⟨_, _, step?_run hr hm, rfl⟩
    have hnext : t.runs[i]? = some (.aborting (v.abort client) (.failed fault)) := by
      rw [hruns, List.getElem?_set_self hi]
    have hlength : i < t.runs.length := (List.getElem?_eq_some_iff.mp hnext).1
    obtain ⟨said, u, hrun, hend⟩ := ih hnext (hd.erase ⟨client, .running⟩) hrest hlength
    exact ⟨o :: said, u, History.run?_cons.mpr ⟨o, t, said, hstep, hrun, rfl⟩, hend⟩

/-! ## Retrying -/

/-- What becomes of attempts to accept in the course of a history that leads to `s`. -/
structure Retries (options : ServerOptions) (events : List ServerEvent) (s : Server) : Prop where
  /-- After a fault that passes the run pauses. The attempt has the number of such faults since a client was
  accepted last, as far as there are numbers; the pause is the base doubled with each attempt, up to the cap,
  and at most a tenth longer. -/
  pauses : ∀ before i fault jitter after attempt,
    events = before ++ .run i (.failAccept fault jitter) :: after → Failure.passes fault = true →
    attempt =
      min (passingInRow (ServerEvent.results i (before ++ [.run i (.failAccept fault jitter)]))) maxFailures →
    jitter < Backoff.jitterRange attempt Backoff.acceptBase Backoff.acceptCap →
    ∃ answers t v pause,
      (new options).run? (before ++ [.run i (.failAccept fault jitter)]) = some (answers, t) ∧
      answers.getLast? = some (.said [retrying fault attempt pause]) ∧
      t.runs[i]? = some (.pausing v (pause * 1000000)) ∧
      min (5 * 2 ^ (attempt - 1)) 1000 ≤ pause ∧ 10 * pause ≤ 11 * min (5 * 2 ^ (attempt - 1)) 1000 ∧
      5 ≤ pause ∧ pause ≤ 1099
  /-- When its pause is over the run accepts again. -/
  resumes : ∀ (i : Nat) v left, s.runs[i]? = some (.pausing v left) →
    ∃ said t, s.run? [.pass left, .run i .resume] = some (said, t) ∧ t.runs[i]? = some (.accepting v)
  /-- However long its pause still is, an interrupted run can stop. -/
  interrupts : ∀ (i : Nat) v left, s.runs[i]? = some (.pausing v left) → s.stop.raised = true →
    ∃ o t v', s.step? (.run i .stop) = some (o, t) ∧ t.state = .draining ∧
      t.runs[i]? = some (.draining v' s.active s.options.gracePeriod.nanos)
  /-- A run that has stopped accepts no more and ends well. -/
  stops : ∀ (i : Nat) r, .run i .stop ∈ events → s.runs[i]? = some r →
    r.isStopping = true ∧ ∀ result, r = .ended result → result = .ok
  /-- A run that has made attempts ends well when it was interrupted, or with a fault that does not pass; all
  its faults before this one pass. -/
  ends : ∀ (i : Nat) result, s.runs[i]? = some (.ended result) → ServerEvent.results i events ≠ [] →
    result = .ok ∧ s.stop.raised = true ∨ ∃ fault earlier, result = .failed (.accept fault) ∧
      ServerEvent.results i events = earlier ++ [.error fault] ∧ Failure.passes fault = false ∧ AllPass earlier
  /-- After a fault that does not pass, a run ends with it. Until then it does nothing but abort its connections,
  and it ends when none is left. -/
  fails : ∀ i fault, .error fault ∈ ServerEvent.results i events → Failure.passes fault = false →
    s.runs[i]? = some (.ended (.failed (.accept fault))) ∨
    ∃ v, s.runs[i]? = some (.aborting v (.failed fault)) ∧
      (∃ said t, s.run? (v.clients.map (fun client => .run i (.abort client)) ++ [.run i .close]) =
        some (said, t) ∧ t.runs[i]? = some (.ended (.failed (.accept fault)))) ∧
      ∀ m o t, s.step? (.run i m) = some (o, t) →
        (∃ client, m = .abort client ∧ client ∈ v.clients ∧
          t.runs[i]? = some (.aborting (v.abort client) (.failed fault))) ∨
        m = .close ∧ v.clients = [] ∧ t.runs[i]? = some (.ended (.failed (.accept fault)))

variable {before after : List ServerEvent}

theorem exists_pause {attempt : Nat}
    (h : (new options).run? (before ++ .run i (.failAccept fault jitter) :: after) = some (said, s))
    (hp : Failure.passes fault = true)
    (hattempt : attempt =
      min (passingInRow (ServerEvent.results i (before ++ [.run i (.failAccept fault jitter)]))) maxFailures)
    (hjitter : jitter < Backoff.jitterRange attempt Backoff.acceptBase Backoff.acceptCap) :
    ∃ answers t v pause,
      (new options).run? (before ++ [.run i (.failAccept fault jitter)]) = some (answers, t) ∧
      answers.getLast? = some (.said [retrying fault attempt pause]) ∧
      t.runs[i]? = some (.pausing v (pause * 1000000)) ∧
      min (5 * 2 ^ (attempt - 1)) 1000 ≤ pause ∧ 10 * pause ≤ 11 * min (5 * 2 ^ (attempt - 1)) 1000 ∧
      5 ≤ pause ∧ pause ≤ 1099 := by
  obtain ⟨answers, u, _, hbefore, hrest, -⟩ := History.exists_of_run?_append h
  obtain ⟨o, t, _, hstep, -, -⟩ := History.run?_cons.mp hrest
  have hrun : (new options).run? (before ++ [.run i (.failAccept fault jitter)]) = some (answers ++ [o], t) :=
    History.run?_concat hbefore hstep
  have hagrees := agrees_of_run hrun
  cases steps_of_step? hstep with
  | run i r m o r' s' hr hm =>
    have hi : i < u.runs.length := (List.getElem?_eq_some_iff.mp hr).1
    cases hm with
    | fail v fault jitter hpermit hp' =>
      rw [hp] at hp'
      cases hp'
    | retry v fault jitter hpermit hp failures pause hn hd =>
      have hpausing : (u.runs.set i (.pausing { v with listener := v.listener.cancel, failures }
          (pause * 1000000)))[i]? = some (.pausing { v with listener := v.listener.cancel, failures }
            (pause * 1000000)) := List.getElem?_set_self hi
      obtain rfl : failures = attempt := (hagrees i _ hpausing).1.trans hattempt.symm
      have hpositive : failures ≠ 0 := by
        have hmax : maxFailures ≠ 0 := by decide
        omega
      obtain ⟨length, hlength, hbounds⟩ := Backoff.delay_accept hpositive hjitter
      rw [hlength, Option.getD_some] at hd
      subst hd
      exact ⟨_, _, _, pause, hrun, List.getLast?_concat, hpausing, hbounds⟩

theorem exists_resume {left : Nat} (hr : s.runs[i]? = some (.pausing v left)) : ∃ said t,
    s.run? [.pass left, .run i .resume] = some (said, t) ∧ t.runs[i]? = some (.accepting v) := by
  have hi : i < s.runs.length := (List.getElem?_eq_some_iff.mp hr).1
  have hpassed : (s.runs.map (ServerRun.pass left))[i]? = some (.pausing v 0) := by
    rw [List.getElem?_map, hr, Option.map_some, ServerRun.pass, Nat.sub_self]
  have hm : move? { s with runs := s.runs.map (ServerRun.pass left) } (.pausing v 0) .resume =
      some (.none, .accepting v, { s with runs := s.runs.map (ServerRun.pass left) }) := rfl
  refine ⟨_, _, History.run?_cons.mpr ⟨_, _, _, rfl, History.run?_single (step?_run hpassed hm), rfl⟩, ?_⟩
  exact List.getElem?_set_self (by simpa using hi)

/-- All that a run does that cannot go on accepting. -/
theorem step_of_failed {t : Server} (hr : s.runs[i]? = some (.aborting v (.failed fault)))
    (hs : s.step? (.run i m) = some (o, t)) :
    (∃ client, m = .abort client ∧ client ∈ v.clients ∧
      t.runs[i]? = some (.aborting (v.abort client) (.failed fault))) ∨
    m = .close ∧ v.clients = [] ∧ t.runs[i]? = some (.ended (.failed (.accept fault))) := by
  have hi : i < s.runs.length := (List.getElem?_eq_some_iff.mp hr).1
  cases steps_of_step? hs with
  | run i r m o r' s' hr' hm =>
    obtain rfl := Option.some.inj (hr'.symm.trans hr)
    cases hm with
    | abort v why client hserved =>
      exact .inl ⟨client, rfl, Serving.mem_clients.mpr hserved, List.getElem?_set_self hi⟩
    | closeFailed v fault hrunning =>
      have hnone : v.clients = [] := List.length_eq_zero_iff.mp (Serving.length_clients.trans hrunning)
      exact .inr ⟨rfl, hnone, List.getElem?_set_self hi⟩

/-- In every history of a server, whatever its runs, its clients, the system and those who interrupt it do, failed
attempts to accept are dealt with as they should be. -/
theorem retries_of_run (h : (new options).run? events = some (said, s)) : Retries options events s := by
  have hbalance : Balance options events s := balance_of_run h
  have hagrees := agrees_of_run h
  refine ⟨?_, fun i v left hr => ?_, fun i v left hr hraised => ?_, fun i r hstop hr => ?_,
    fun i result hr hne => ?_, fun i fault hm hp => ?_⟩
  · rintro before i fault jitter after attempt rfl hp hattempt hjitter
    exact exists_pause h hp hattempt hjitter
  · exact exists_resume hr
  · have hm : s.move? (.pausing v left) .stop = some (s.drain v) := if_pos hraised
    exact ⟨_, _, _, step?_run hr hm, rfl, List.getElem?_set_self (List.getElem?_eq_some_iff.mp hr).1⟩
  · have hstops : r.isStopping = true := isStopping_of_run h hr hstop
    refine ⟨hstops, ?_⟩
    rintro result rfl
    cases result with
    | ok => rfl
    | _ => cases hstops
  · obtain rfl | hfault := (hagrees i _ hr).of_ended hne
    · exact .inl ⟨rfl, raised_of_isStopping h i _ hr rfl⟩
    · exact .inr hfault
  · obtain ⟨m, hevent, -⟩ := ServerEvent.mem_results.mp hm
    have hr := List.getElem?_eq_getElem (hbalance.moved i m hevent)
    obtain ⟨v, hv⟩ | hended := (hagrees i _ hr).of_fault hm hp
    · rw [hv] at hr
      have hdistinct : v.Distinct := (hbalance.balanced i _ hr v rfl).1.distinct
      exact .inr ⟨v, hr, exists_end_of_failed hr hdistinct rfl, fun m o t => step_of_failed hr⟩
    · exact .inl (hr.trans (congrArg some hended))

/-- A client is accepted and then an attempt fails; the client leaves during the pause, the next attempt fails
again, and the server is interrupted. -/
def troubled : List ServerEvent :=
  [.call, .run 0 .begin, .run 0 (.bind (.ok "127.0.0.1:9090")), .run 0 .acquire,
    .run 0 (.accept 7 "127.0.0.1:40000"), .run 0 .acquire, .run 0 (.failAccept (.code 24) 0),
    .run 0 (.finish 7 false), .pass 5000000, .run 0 .resume, .run 0 .acquire,
    .run 0 (.failAccept (.code 103) 0), .interrupt none]

theorem retries_of_troubled : ∃ said s,
    (new ⟨"127.0.0.1:9090", 4, .fiveSeconds⟩).run? troubled = some (said, s) ∧
      (∃ answers t v pause, (new ⟨"127.0.0.1:9090", 4, .fiveSeconds⟩).run? (troubled.take 12) = some (answers, t) ∧
        answers.getLast? = some (.said [retrying (.code 103) 2 pause]) ∧
        t.runs[0]? = some (.pausing v (pause * 1000000)) ∧ 10 ≤ pause ∧ pause ≤ 11) ∧
      ∃ o t, s.step? (.run 0 .stop) = some (o, t) ∧ t.state = .draining := by
  obtain ⟨said, s, v, left, h, hr, hraised⟩ : ∃ said s v left,
      (new ⟨"127.0.0.1:9090", 4, .fiveSeconds⟩).run? troubled = some (said, s) ∧
        s.runs[0]? = some (.pausing v left) ∧ s.stop.raised = true := ⟨_, _, _, _, rfl, rfl, rfl⟩
  obtain ⟨answers, t, u, pause, hrun, hlast, hpausing, hlow, hhigh, -, -⟩ :=
    (retries_of_run h).pauses (troubled.take 11) 0 (.code 103) 0 [.interrupt none] 2 rfl rfl rfl (by decide)
  obtain ⟨o, w, _, hstep, hdraining, -⟩ := (retries_of_run h).interrupts 0 v left hr hraised
  exact ⟨said, s, h, ⟨answers, t, u, pause, hrun, hlast, hpausing, by omega, by omega⟩, o, w, hstep, hdraining⟩

end Server

end MetricsGateway
