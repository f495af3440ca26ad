import MetricsGateway.Proofs.Server.Closing
import MetricsGateway.Proofs.Server.Forced

/-!
How a run drains: the connections that are open when it begins end by themselves or, once the grace
period is over, are aborted. Main statement: the report tells how many were open and how many outlasted
the grace period, and connections are counted and warned of as forced closed exactly if some did.
-/

namespace MetricsGateway

/-- The end of a client's task: how much time had passed, and whether it was aborted. -/
structure TaskEnd where
  client : Nat
  time : Nat
  aborted : Bool
  deriving DecidableEq, Repr

def RunMove.taskEnd? (time : Nat) : RunMove → Option TaskEnd
  | .finish client _ => some ⟨client, time, false⟩
  | .abort client => some ⟨client, time, true⟩
  | _ => none

/-- The report where so many connections were open and so many outlasted the grace period. -/
def DrainReport.lasting (inFlight aborted : Nat) : DrainReport :=
  ⟨decide (0 < aborted), inFlight, aborted⟩

namespace ServerEvent

def nanos : ServerEvent → Nat
  | .pass nanos => nanos
  | _ => 0

/-- How much time passes in the course of a history. -/
def elapsed : List ServerEvent → Nat
  | [] => 0
  | e :: rest => e.nanos + elapsed rest

/-- The ends of the tasks of a run, some time having passed before. -/
def taskEnds (i since : Nat) : List ServerEvent → List TaskEnd
  | [] => []
  | e :: rest =>
    ((e.move? i).bind (RunMove.taskEnd? since)).toList ++ taskEnds i (since + e.nanos) rest

variable {i since : Nat} {events : List ServerEvent} {e : ServerEvent}

theorem elapsed_concat : elapsed (events ++ [e]) = elapsed events + e.nanos := by
  induction events with
  | nil => simp [elapsed]
  | cons d events ih =>
    simp only [List.cons_append, elapsed, ih]
    omega

theorem taskEnds_concat : taskEnds i since (events ++ [e]) =
    taskEnds i since events ++
      ((e.move? i).bind (RunMove.taskEnd? (since + elapsed events))).toList := by
  induction events generalizing since with
  | nil => simp [taskEnds, elapsed]
  | cons d events ih =>
    simp only [List.cons_append, taskEnds, elapsed, ih, List.append_assoc, Nat.add_assoc]

theorem map_client_taskEnd {m : RunMove} {time : Nat} :
    (m.taskEnd? time).toList.map TaskEnd.client = m.ended?.toList := by
  cases m <;> rfl

theorem map_client_taskEnds : (taskEnds i since events).map TaskEnd.client = ended i events := by
  induction events generalizing since with
  | nil => rfl
  | cons e events ih =>
    have he : ended i (e :: events) = ((e.move? i).bind RunMove.ended?).toList ++ ended i events := by
      simp only [ended, List.filterMap_cons]
      cases e.move? i with
      | none => rfl
      | some m => cases h : m.ended? <;> simp [h]
    rw [he, taskEnds, List.map_append, ih]
    cases e.move? i with
    | none => rfl
    | some m => exact congrArg (· ++ _) map_client_taskEnd

end ServerEvent

/-- How far a run has come that began to drain with so many connections open, when some time has passed
and some connections were aborted, and what is reported then. -/
inductive ServerRun.Drains (grace inFlight elapsed aborted : Nat) :
    ServerRun → Option DrainReport → Prop where
  | waiting (v : Serving) (ha : aborted = 0) :
      Drains grace inFlight elapsed aborted (.draining v inFlight (grace - elapsed)) none
  | forcing (v : Serving) (lasting : Nat) (hpos : 0 < lasting)
      (hl : aborted + v.running = lasting) (hg : grace ≤ elapsed) :
      Drains grace inFlight elapsed aborted
        (.aborting v (.expired (.lasting inFlight lasting))) none
  | done : Drains grace inFlight elapsed aborted (.ended .ok) (some (.lasting inFlight aborted))

namespace Server

variable {s s' t : Server} {r r' : ServerRun} {m : RunMove} {o : Observed} {options : ServerOptions}
  {before after events : List ServerEvent} {said : List Observed} {e : ServerEvent} {v : Serving}
  {i grace inFlight elapsed aborted : Nat} {report : Option DrainReport}

theorem of_drains_ended {result : RunEnd}
    (hd : (ServerRun.ended result).Drains grace inFlight elapsed aborted report) :
    result = .ok ∧ report = some (.lasting inFlight aborted) := by
  cases hd with
  | done => exact ⟨rfl, rfl⟩

/-- The server does not listen any more. -/
theorem not_listening_of_drains (hd : r.Drains grace inFlight elapsed aborted report)
    (hf : r.Fits s.state s.active) (a : String) : s.state ≠ .listening a := by
  cases hd with
  | waiting | forcing | done => simp [hf.1]

theorem Moves.drains (hm : s.Moves r m o r' s')
    (hd : r.Drains grace inFlight elapsed aborted s.report) (hf : r.Fits s.state s.active) :
    r'.Drains grace inFlight elapsed
        (aborted + (m.taskEnd? elapsed).toList.countP (·.aborted)) s'.report ∧
      ∀ x ∈ m.taskEnd? elapsed, x.aborted = true → grace ≤ x.time := by
  generalize hrep : s.report = report at hd
  cases hd with
  | waiting v ha =>
    generalize hleft : grace - elapsed = left at hm
    cases hm with
    | finishDraining v inFlight left client crashed h =>
      subst hleft
      exact ⟨hrep ▸ .waiting _ ha, by simp [RunMove.taskEnd?]⟩
    | drained v inFlight left h =>
      subst ha
      exact ⟨.done, by simp [RunMove.taskEnd?]⟩
    | expire v inFlight h =>
      obtain ⟨-, -, hact⟩ := hf
      have hforced : decide (0 < s.active) = true := by simp [hact, h]
      refine ⟨?_, by simp [RunMove.taskEnd?]⟩
      have hphase : ServerRun.Drains grace inFlight elapsed aborted
          (.aborting v (.expired (.lasting inFlight s.active))) none :=
        .forcing v s.active (by omega) (by omega) (Nat.le_of_sub_eq_zero hleft)
      rw [DrainReport.lasting, hforced] at hphase
      simpa [RunMove.taskEnd?, hrep] using hphase
  | forcing v lasting hpos hl hg =>
    cases hm with
    | abort v why client h =>
      have hr := Serving.running_abort h
      refine ⟨hrep ▸ .forcing _ lasting hpos ?_ hg, ?_⟩
      · simp only [RunMove.taskEnd?, Option.toList_some, List.countP_singleton, if_true]
        omega
      · rintro x ⟨⟩ -
        exact hg
    | closeExpired v report h =>
      have ha : aborted = lasting := by omega
      subst ha
      exact ⟨.done, by simp [RunMove.taskEnd?]⟩
  | done => cases hm

theorem drains_pass {nanos : Nat} (hd : r.Drains grace inFlight elapsed aborted report) :
    (r.pass nanos).Drains grace inFlight (elapsed + nanos) aborted report := by
  cases hd with
  | waiting v ha =>
    rw [ServerRun.pass, Nat.sub_sub]
    exact .waiting v ha
  | forcing v lasting hpos hl hg => exact .forcing v lasting hpos hl (by omega)
  | done => exact .done

/-- What has happened since a run began to drain with so many connections open. -/
structure Drain (options : ServerOptions) (i inFlight : Nat) (after : List ServerEvent) (s : Server) :
    Prop where
  inTurn : InTurn options s
  phase : ∃ r, s.runs[i]? = some r ∧
    r.Drains options.gracePeriod.nanos inFlight (ServerEvent.elapsed after)
      ((ServerEvent.taskEnds i 0 after).countP (·.aborted)) s.report
  overdue : ∀ x ∈ ServerEvent.taskEnds i 0 after, x.aborted = true →
    options.gracePeriod.nanos ≤ x.time
  unopened : ∀ j client peer, .run j (.accept client peer) ∉ after

namespace Drain

theorem start (t : InTurn options s) (hr : s.runs[i]? =
      some (.draining v inFlight options.gracePeriod.nanos)) (hn : s.report = none) :
    Drain options i inFlight [] s := by
  refine ⟨t, ⟨_, hr, ?_⟩, nofun, nofun⟩
  rw [hn]
  exact .waiting v rfl

/-- An event that no run takes part in. -/
theorem idle (d : Drain options i inFlight after s) (t : InTurn options s') (hn : e.nanos = 0)
    (he : ∀ j m, e ≠ .run j m) (hr : ∀ r, s.runs[i]? = some r → s'.runs[i]? = some r)
    (hrep : s'.report = s.report) : Drain options i inFlight (after ++ [e]) s' := by
  have hmove : e.move? i = none := by
    cases e with
    | run j m => exact absurd rfl (he j m)
    | _ => rfl
  obtain ⟨r, hi, hd⟩ := d.phase
  refine ⟨t, ⟨r, hr r hi, ?_⟩, ?_, fun j client peer => ?_⟩
  · rwa [ServerEvent.taskEnds_concat, hmove, ServerEvent.elapsed_concat, hn, hrep, Option.bind_none,
      Option.toList_none, List.append_nil]
  · rw [ServerEvent.taskEnds_concat, hmove, Option.bind_none, Option.toList_none, List.append_nil]
    exact d.overdue
  · rw [List.mem_append, List.mem_singleton, not_or]
    exact ⟨d.unopened j client peer, (he j _).symm⟩

theorem pass (d : Drain options i inFlight after s) {nanos : Nat}
    (t : InTurn options { s with runs := s.runs.map (ServerRun.pass nanos) }) :
    Drain options i inFlight (after ++ [.pass nanos])
      { s with runs := s.runs.map (ServerRun.pass nanos) } := by
  obtain ⟨r, hi, hd⟩ := d.phase
  have hends : ServerEvent.taskEnds i 0 (after ++ [.pass nanos]) = ServerEvent.taskEnds i 0 after := by
    rw [ServerEvent.taskEnds_concat]
    exact List.append_nil _
  refine ⟨t, ⟨r.pass nanos, by simp [hi], ?_⟩, ?_, fun j client peer => ?_⟩
  · rw [hends, ServerEvent.elapsed_concat]
    exact drains_pass hd
  · rw [hends]
    exact d.overdue
  · simpa using d.unopened j client peer

/-- No run accepts any more. -/
theorem not_accepting (d : Drain options i inFlight after s) {j : Nat} (v : Serving) :
    s.runs[j]? ≠ some (.accepting v) := by
  intro hj
  obtain ⟨r, hi, hd⟩ := d.phase
  obtain ⟨⟨a, ha⟩, -⟩ := d.inTurn.fits j _ hj
  exact not_listening_of_drains hd (d.inTurn.fits i r hi) a ha

theorem run (d : Drain options i inFlight after s) {j : Nat} (hr : s.runs[j]? = some r)
    (hm : s.Moves r m o r' s') (t : InTurn options { s' with runs := s.runs.set j r' }) :
    Drain options i inFlight (after ++ [.run j m]) { s' with runs := s.runs.set j r' } := by
  obtain ⟨q, hi, hd⟩ := d.phase
  have hlt := (List.getElem?_eq_some_iff.mp hr).1
  have hopen : ∀ client peer, m ≠ .accept client peer := by
    rintro client peer rfl
    cases hm with
    | accept v => exact d.not_accepting v hr
  have hunopened : ∀ k client peer, .run k (.accept client peer) ∉ after ++ [.run j m] := by
    intro k client peer hk
    obtain hk | hk := List.mem_append.mp hk
    · exact d.unopened k client peer hk
    · cases List.mem_singleton.mp hk
      exact hopen client peer rfl
  by_cases hij : j = i
  · subst j
    cases hr.symm.trans hi
    obtain ⟨hd, hx⟩ := hm.drains hd (d.inTurn.fits i r hr)
    refine ⟨t, ⟨r', List.getElem?_set_self hlt, ?_⟩, fun x hmem => ?_, hunopened⟩
    · simpa [ServerEvent.taskEnds_concat, ServerEvent.elapsed_concat, ServerEvent.move?,
        ServerEvent.nanos] using hd
    · rw [ServerEvent.taskEnds_concat, List.mem_append] at hmem
      obtain hmem | hmem := hmem
      · exact d.overdue x hmem
      · exact hx x (by simpa [ServerEvent.move?] using hmem)
  · -- the run that drained has ended
    obtain rfl := d.inTurn.other hr hm hij hi
    have hends : ServerEvent.taskEnds i 0 (after ++ [.run j m]) = ServerEvent.taskEnds i 0 after := by
      rw [ServerEvent.taskEnds_concat, ServerEvent.move?, if_neg hij]
      exact List.append_nil _
    refine ⟨t, ⟨q, (List.getElem?_set_ne hij).trans hi, ?_⟩, ?_, hunopened⟩
    · rw [hends, ServerEvent.elapsed_concat]
      exact hd
    · rw [hends]
      exact d.overdue

theorem step (d : Drain options i inFlight after s) (hmax : options.maxConnections ≤ Pool.maxSize)
    (hs : s.inTurn? e = some (o, s')) : Drain options i inFlight (after ++ [e]) s' := by
  obtain ⟨hstep, hcall⟩ := step?_of_inTurn? hs
  have hsteps := steps_of_step? hstep
  have t := d.inTurn.step hmax hsteps hcall
  cases hsteps with
  | call =>
    refine d.idle t rfl nofun (fun r hr => ?_) rfl
    exact (List.getElem?_append_left (List.getElem?_eq_some_iff.mp hr).1).trans hr
  | interrupt cause => exact d.idle t rfl nofun (fun r hr => hr) rfl
  | pass nanos => exact d.pass t
  | run j r m o r' s' hr hm => exact d.run hr hm t

end Drain

/-- A run that sees the stop flag while it serves begins to drain with all connections that are open. -/
theorem Moves.drains_of_stop (hm : s.Moves r .stop o r' s') (hf : r.Fits s.state s.active) :
    ∃ v w a, r.serving? = some v ∧ s.active = v.clients.length ∧ s.state = .listening a ∧
      s.stop.raised = true ∧ s'.report = s.report ∧
      r' = .draining w v.clients.length s.options.gracePeriod.nanos := by
  have hlen (v : Serving) (h : s.active = v.running) : s.active = v.clients.length :=
    h.trans Serving.length_clients.symm
  cases hm with
  | stopAccepting v h | stopPausing v left h =>
    obtain ⟨⟨a, ha⟩, -, hact⟩ := hf
    exact ⟨v, _, a, rfl, hlen v hact, ha, h, rfl, by rw [hlen v hact]⟩

/-- No run drains where none can ever serve. -/
theorem maxConnections_le_of_stop (h : (new options).run? events = some (said, s))
    (hr : s.runs[i]? = some r) (hm : s.Moves r .stop o r' s') :
    options.maxConnections ≤ Pool.maxSize := by
  by_contra hmax
  have hnone := (unserved_of_run (Nat.lt_of_not_le hmax) h).serving i r hr
  cases hm <;> cases hnone

/-- Where a run began to drain and what has happened since. -/
theorem exists_drain
    (h : History.run? inTurn? (new options) (before ++ .run i .stop :: after) = some (said, s)) :
    ∃ earlier t q v, History.run? inTurn? (new options) before = some (earlier, t) ∧
      t.runs[i]? = some q ∧ q.serving? = some v ∧ t.active = v.clients.length ∧
      s.stop.raised = true ∧ options.maxConnections ≤ Pool.maxSize ∧
      Drain options i v.clients.length after s := by
  obtain ⟨earlier, t, later, hb, ha, -⟩ := History.exists_of_run?_append h
  obtain ⟨o, u, rest, hs, hafter, -⟩ := History.run?_cons.mp ha
  have hsteps := steps_of_step? (step?_of_inTurn? hs).1
  cases hsteps with
  | run i q m o r' t' hq hm =>
    have hmax := maxConnections_le_of_stop (run?_of_inTurn? hb) hq hm
    have l := life_of_run hmax hb
    obtain ⟨v, w, a, hv, hact, hstate, hstop, hrep, rfl⟩ :=
      hm.drains_of_stop (l.inTurn.fits i q hq)
    have hraised : s.stop.raised = true := by
      obtain ⟨cause, hc⟩ := l.interrupted.mp hstop
      exact (life_of_run hmax h).interrupted.mpr ⟨cause, List.mem_append_left _ hc⟩
    have hi := (List.getElem?_eq_some_iff.mp hq).1
    have hstart : Drain options i v.clients.length []
        { t' with runs := t.runs.set i (.draining w v.clients.length options.gracePeriod.nanos) } := by
      refine Drain.start ?_ (List.getElem?_set_self hi) ?_
      · have hturn := l.inTurn.run hmax hq hm
        rwa [l.inTurn.options_eq] at hturn
      · exact hrep.trans (l.report_eq_none (by simp [hstate]))
    rw [l.inTurn.options_eq] at hafter
    refine ⟨earlier, t, q, v, hb, hq, hv, hact, hraised, hmax, ?_⟩
    exact History.run?_induction (P := fun after _ s => Drain options i v.clients.length after s)
      hstart (fun _ _ _ _ _ _ _ d hs => d.step hmax hs) hafter

/-- A run that was stopped can go on to its end without any client. -/
theorem exists_end (hr : s.runs[i]? = some r) (hstop : s.stop.raised = true) :
    ∃ own os u result, (∀ e ∈ own, ServerEvent.isOwn e = true) ∧
      History.run? inTurn? s own = some (os, u) ∧ u.runs[i]? = some (.ended result) := by
  induction hw : r.work using Nat.strongRecOn generalizing s r with
  | _ n ih =>
    cases he : r.isEnded with
    | true =>
      cases r with
      | ended result => exact ⟨[], [], s, result, by simp, rfl, hr⟩
      | _ => cases he
    | false =>
      have hi := (List.getElem?_eq_some_iff.mp hr).1
      obtain ⟨e, o, s', q, hown, hs, hq, hlt⟩ : ∃ e o s' q, ServerEvent.isOwn e = true ∧
          s.inTurn? e = some (o, s') ∧ s'.runs[i]? = some q ∧ q.work < r.work := by
        obtain ⟨m, o, q, s', hm, -, hmove, hlt⟩ | ⟨nanos, hlt⟩ :=
          @exists_event s r (.ok "") hstop he
        · exact ⟨.run i m, _, _, q, hm, step?_run hr hmove, List.getElem?_set_self hi, hlt⟩
        · exact ⟨.pass nanos, _, _, r.pass nanos, rfl, rfl, by simp [hr], hlt⟩
      have hstop' := (steps_of_step? (step?_of_inTurn? hs).1).stop_raised hstop
      obtain ⟨own, os, u, result, hall, hrun, hu⟩ := ih q.work (hw ▸ hlt) hq hstop' rfl
      refine ⟨e :: own, o :: os, u, result, ?_, ?_, hu⟩
      · simpa [hown] using hall
      · exact History.run?_cons.mpr ⟨o, s', os, hs, hrun, rfl⟩

/-- The clients that a run served at some time have ended since or are served still, where it has
accepted none since. -/
theorem clients_perm_of_run {earlier : List Observed} {q : ServerRun}
    (hb : (new options).run? before = some (earlier, t))
    (h : (new options).run? (before ++ after) = some (said, s)) (hq : t.runs[i]? = some q)
    (hr : s.runs[i]? = some r) (hnone : ServerEvent.accepted i after = []) :
    q.clients.Perm (ServerEvent.ended i after ++ r.clients) := by
  have hbefore := (balance_of_run hb).served i q hq
  have hafter := (balance_of_run h).served i r hr
  have ha : ServerEvent.accepted i (before ++ after) = ServerEvent.accepted i before := by
    rw [ServerEvent.accepted, List.filterMap_append, List.filterMap_append]
    exact (congrArg _ hnone).trans (List.append_nil _)
  have he : ServerEvent.ended i (before ++ after) =
      ServerEvent.ended i before ++ ServerEvent.ended i after := by
    rw [ServerEvent.ended, List.filterMap_append, List.filterMap_append]
    rfl
  rw [ha, he, List.append_assoc] at hafter
  exact (List.perm_append_left_iff _).mp (hbefore.symm.trans hafter)

theorem accepted_eq_nil (h : ∀ j client peer, .run j (.accept client peer) ∉ after) :
    ServerEvent.accepted i after = [] := by
  refine List.filterMap_eq_nil_iff.mpr fun m hm => ?_
  obtain ⟨e, he, hmove⟩ := List.mem_filterMap.mp hm
  cases e with
  | run j m' =>
    simp only [ServerEvent.move?, Option.ite_none_right_eq_some, Option.some.injEq] at hmove
    obtain ⟨rfl, rfl⟩ := hmove
    cases m' with
    | accept client peer => exact absurd he (h j client peer)
    | _ => rfl
  | _ => cases hmove

/-- A server whose runs are awaited, whatever its grace period. It warns and counts that connections are
forced closed once if its report says so, and otherwise never; a run that could not go on accepting
leaves no report. From the moment when a run begins to drain no connection is added. Each connection that
is open then ends once or is served still; none is aborted before the grace period is over, the run can
go on to its end without any client, and it ends well, with no connection open. The report tells how many
connections were open at first and, where no task ends by itself between the end of the grace period and
the moment when the run sees it, that as many were forced closed as outlasted the grace period. -/
theorem drain_of_awaited_runs
    (h : History.run? inTurn? (new options) events = some (said, s)) :
    warnings said = s.forced?.toList.map (warning options) ∧
    forcedCount said = s.forced?.toList.length ∧
    (∀ (i : Nat) fault, s.runs[i]? = some (.ended (.failed (.accept fault))) → s.report = none) ∧
    ∀ before i after, events = before ++ .run i .stop :: after →
      ∃ earlier t q v r, History.run? inTurn? (new options) before = some (earlier, t) ∧
        t.runs[i]? = some q ∧ q.serving? = some v ∧ t.active = v.clients.length ∧
        s.runs[i]? = some r ∧
        (∀ j client peer, .run j (.accept client peer) ∉ after) ∧
        v.clients.Perm ((ServerEvent.taskEnds i 0 after).map TaskEnd.client ++ r.clients) ∧
        (∀ x ∈ ServerEvent.taskEnds i 0 after, x.aborted = true →
          options.gracePeriod.nanos ≤ x.time) ∧
        (∃ own os u, (∀ e ∈ own, ServerEvent.isOwn e = true) ∧
          History.run? inTurn? s own = some (os, u) ∧ u.runs[i]? = some (.ended .ok)) ∧
        ∀ result, r = .ended result → result = .ok ∧ s.active = 0 ∧
          ∃ lasting, s.report = some (.lasting v.clients.length lasting) ∧
            lasting ≤ v.clients.length ∧
            ((∀ x ∈ ServerEvent.taskEnds i 0 after, x.aborted = false →
                x.time < options.gracePeriod.nanos) →
              lasting = (ServerEvent.taskEnds i 0 after).countP
                (options.gracePeriod.nanos ≤ ·.time)) := by
  have t := tally_of_run h
  refine ⟨t.warned, t.counted, fun i fault hi => t.unable i _ fault hi rfl, ?_⟩
  rintro before i after rfl
  obtain ⟨earlier, t, q, v, hb, hq, hv, hact, hstop, hmax, d⟩ := exists_drain h
  obtain ⟨r, hr, hd⟩ := d.phase
  have hperm : v.clients.Perm
      ((ServerEvent.taskEnds i 0 after).map TaskEnd.client ++ r.clients) := by
    have hnone : ServerEvent.accepted i (.run i .stop :: after) = [] := by
      refine accepted_eq_nil fun j client peer hj => ?_
      obtain hj | hj := List.mem_cons.mp hj
      · cases hj
      · exact d.unopened j client peer hj
    have hended : ServerEvent.ended i (.run i .stop :: after) = ServerEvent.ended i after := by
      simp [ServerEvent.ended, ServerEvent.move?, List.filterMap_cons, RunMove.ended?]
    have hp := clients_perm_of_run (run?_of_inTurn? hb) (run?_of_inTurn? h) hq hr hnone
    have hends : (ServerEvent.taskEnds i 0 after).map TaskEnd.client = ServerEvent.ended i after :=
      ServerEvent.map_client_taskEnds
    rwa [ServerRun.clients_eq hv, hended, ← hends] at hp
  refine ⟨earlier, t, q, v, r, hb, hq, hv, hact, hr, d.unopened, hperm, d.overdue, ?_, ?_⟩
  · obtain ⟨own, os, u, result, hown, hrun, hu⟩ := exists_end hr hstop
    have hmore := History.run?_append h hrun
    rw [List.append_assoc, List.cons_append] at hmore
    obtain ⟨_, _, _, _, _, _, _, _, _, _, d'⟩ := exists_drain hmore
    obtain ⟨r', hr', hd'⟩ := d'.phase
    cases hu.symm.trans hr'
    obtain ⟨rfl, -⟩ := of_drains_ended hd'
    exact ⟨own, os, u, hown, hrun, hu⟩
  · rintro result rfl
    have hfits := d.inTurn.fits i _ hr
    have hlen := hperm.length_eq
    rw [List.length_append, List.length_map] at hlen
    obtain ⟨rfl, hrep⟩ := of_drains_ended hd
    refine ⟨rfl, hfits.2.1, _, hrep, ?_, fun htimely => ?_⟩
    · refine Nat.le_trans List.countP_le_length ?_
      omega
    · refine List.countP_congr fun x hx => ?_
      cases hab : x.aborted with
      | true => simpa using d.overdue x hx hab
      | false => simpa using htimely x hx hab

/-- Of three connections one has ended before the run drains and is not collected yet, one ends in the
grace period, and one outlasts it. -/
def outlasting : List ServerEvent :=
  [.call, .run 0 .begin, .run 0 (.bind (.ok "127.0.0.1:9090")), .run 0 .acquire,
    .run 0 (.accept 7 "127.0.0.1:40000"), .run 0 .acquire, .run 0 (.accept 8 "127.0.0.1:40001"),
    .run 0 .acquire, .run 0 (.accept 9 "127.0.0.1:40002"), .run 0 (.finish 9 false),
    .interrupt none, .run 0 .stop, .pass 1000000000, .run 0 (.finish 8 true), .pass 4000000000,
    .run 0 .expire, .run 0 (.abort 7), .run 0 .close]

theorem drain_of_outlasting :
    ∃ said s, History.run? inTurn? (new ⟨"127.0.0.1:9090", 3, .fiveSeconds⟩) outlasting =
        some (said, s) ∧
      (∀ x ∈ ServerEvent.taskEnds 0 0 (outlasting.drop 12), x.aborted = false →
        x.time < Duration.fiveSeconds.nanos) ∧
      s.report = some ⟨true, 2, 1⟩ ∧ forcedCount said = 1 := by
  obtain ⟨said, s, h, hr⟩ : ∃ said s, History.run? inTurn?
      (new ⟨"127.0.0.1:9090", 3, .fiveSeconds⟩) outlasting = some (said, s) ∧
        s.runs[0]? = some (.ended .ok) := ⟨_, _, rfl, rfl⟩
  have hends : ServerEvent.taskEnds 0 0 (outlasting.drop 12) =
      [⟨8, 1000000000, false⟩, ⟨7, 5000000000, true⟩] := rfl
  have htimely : ∀ x ∈ ServerEvent.taskEnds 0 0 (outlasting.drop 12), x.aborted = false →
      x.time < Duration.fiveSeconds.nanos := by
    rw [hends]
    decide
  obtain ⟨-, hcount, -, hdrain⟩ := drain_of_awaited_runs h
  obtain ⟨-, -, -, v, r, -, -, -, -, hr', -, hperm, -, -, hended⟩ :=
    hdrain (outlasting.take 11) 0 (outlasting.drop 12) rfl
  cases hr.symm.trans hr'
  obtain ⟨-, -, lasting, hreport, -, hlasting⟩ := hended .ok rfl
  have hopen : v.clients.length = 2 := by
    rw [hperm.length_eq, hends]
    rfl
  have hone : lasting = 1 := by
    rw [hlasting htimely, hends]
    rfl
  rw [hopen, hone] at hreport
  rw [forced?, hreport] at hcount
  exact ⟨said, s, h, htimely, hreport, hcount⟩

end Server

end MetricsGateway
