import MetricsGateway.Proofs.Server.Lifecycle
import MetricsGateway.Proofs.Server.Permits

/-!
Connections that are forced closed: a server whose runs are awaited warns of it and counts it exactly
when it publishes a report about it, and a run that could not go on accepting leaves no report.
-/

namespace MetricsGateway

namespace Server

variable {s s' : Server} {r r' : ServerRun} {m : RunMove} {o : Observed} {options : ServerOptions}
  {events : List ServerEvent} {said more : List Observed} {e : ServerEvent} {fault : SystemFault}

/-- The warnings that connections are forced closed. -/
def warnings (said : List Observed) : List LogRecord :=
  (said.flatMap (·.records)).filter
    (·.message == "Grace period expired, forcing connections closed")

/-- How often it is counted that connections are forced closed. -/
def forcedCount (said : List Observed) : Nat :=
  (said.flatMap (·.counted)).count .forcedShutdown

/-- What is warned of in a report. -/
def warning (options : ServerOptions) (report : DrainReport) : LogRecord :=
  drainForced report.inFlight report.aborted options.gracePeriod

/-- The report that the server publishes, if connections were forced closed. -/
def forced? (s : Server) : Option DrainReport := s.report.filter (·.forced)

theorem warnings_append : warnings (said ++ more) = warnings said ++ warnings more := by
  simp [warnings]

theorem forcedCount_append : forcedCount (said ++ more) = forcedCount said + forcedCount more := by
  simp [forcedCount]

/-- Nothing is said about connections that are forced closed. -/
def Calm (o : Observed) : Prop := warnings [o] = [] ∧ forcedCount [o] = 0

theorem calm_none : Calm .none := ⟨rfl, rfl⟩

theorem calm_said {records : List LogRecord}
    (h : ∀ x ∈ records, x.message ≠ "Grace period expired, forcing connections closed") :
    Calm (.said records) := by
  constructor
  · simpa [warnings, Observed.said] using h
  · rfl

theorem calm_open {n : Nat} : Calm ⟨[], [.openConnections n]⟩ := by
  constructor <;> simp [warnings, forcedCount]

theorem calm_interrupt (s : Server) (cause : Option Failure) : Calm (s.interrupt cause).1 := by
  refine calm_said fun x hx => ?_
  split at hx
  · simp only [List.mem_singleton] at hx
    simp [hx, stopping]
  · cases hx

/-- A move says nothing about connections that are forced closed, or the grace period was over and the
report about it is published. -/
theorem Moves.calm (hm : s.Moves r m o r' s') :
    Calm o ∧ (s'.report = s.report ∨
      ∃ v inFlight left, r = .draining v inFlight left ∧ s'.report = some ⟨false, inFlight, 0⟩) ∨
    ∃ v report, r = .aborting v (.expired report) ∧ o = (s.close (.expired report)).1 ∧
      s'.report = some report := by
  cases hm with
  | closeExpired v report h => exact .inr ⟨v, report, rfl, rfl, rfl⟩
  | drained v inFlight left h =>
    exact .inl ⟨calm_said (by simp [drainEnded, stopped]), .inr ⟨v, inFlight, left, rfl, rfl⟩⟩
  | accept v client peer h hnew =>
    refine .inl ⟨⟨?_, ?_⟩, .inl rfl⟩
    · simp [warnings, Server.accept, accepted]
    · simp [forcedCount, Server.accept]
  | finishAccepting | finishPausing | finishDraining | abort =>
    exact .inl ⟨calm_open, .inl rfl⟩
  | bindPanic a h | listen a h =>
    exact .inl ⟨calm_said (by simp [bound]), .inl rfl⟩
  | retry => exact .inl ⟨calm_said (by simp [retrying]), .inl rfl⟩
  | fail => exact .inl ⟨calm_said (by simp [acceptFailed]), .inl rfl⟩
  | collect v t =>
    refine .inl ⟨calm_said fun x hx => ?_, .inl rfl⟩
    split at hx
    · simp only [List.mem_singleton] at hx
      simp [hx, taskFailed]
    · cases hx
  | stopAccepting | stopPausing => exact .inl ⟨calm_said (by simp [drainStarted]), .inl rfl⟩
  | closeFailed => exact .inl ⟨calm_said (by simp [stopped]), .inl rfl⟩
  | _ => exact .inl ⟨calm_none, .inl rfl⟩

theorem Moves.forced_of_expired (hm : s.Moves r m o r' s') {v : Serving} {report : DrainReport}
    (h : r' = .aborting v (.expired report)) :
    report.forced = true ∨ ∃ w, r = .aborting w (.expired report) := by
  cases hm with
  | expire =>
    cases h
    exact .inl rfl
  | abort w =>
    cases h
    exact .inr ⟨w, rfl⟩
  | _ => cases h

/-- A run learns that it cannot go on while it accepts, and publishes no report from then on. -/
theorem Moves.report_of_unable (hm : s.Moves r m o r' s')
    (h : r'.failure? = some (.accept fault)) :
    s'.report = s.report ∧ ((∃ v, r = .accepting v) ∨ r.failure? = some (.accept fault)) := by
  cases hm with
  | fail v => exact ⟨rfl, .inl ⟨v, rfl⟩⟩
  | abort v why => cases why <;> exact ⟨rfl, .inr h⟩
  | closeFailed => exact ⟨rfl, .inr h⟩
  | _ => cases h

theorem Life.report_eq_none {moments : List (Server × ServerEvent)}
    (l : Life options events moments s) (h : s.state ≠ .closed) : s.report = none := by
  have ht := l.trail
  unfold Trail at ht
  split at ht
  · exact ht.2
  · exact ht.2
  · obtain ⟨a, -, hn⟩ := ht
    exact hn
  · contradiction

/-- What a server has said about connections that are forced closed and what it publishes agree. -/
structure Tally (options : ServerOptions) (said : List Observed) (s : Server) : Prop where
  warned : warnings said = s.forced?.toList.map (warning options)
  counted : forcedCount said = s.forced?.toList.length
  expired : ∀ (i : Nat) v report, s.runs[i]? = some (.aborting v (.expired report)) →
    report.forced = true
  unable : ∀ (i : Nat) r fault, s.runs[i]? = some r → r.failure? = some (.accept fault) →
    s.report = none

namespace Tally

theorem new (options : ServerOptions) : Tally options [] (Server.new options) := by
  constructor <;> simp [Server.new, warnings, forcedCount, forced?]

theorem calm (t : Tally options said s) (ho : Calm o) :
    warnings (said ++ [o]) = s.forced?.toList.map (warning options) ∧
      forcedCount (said ++ [o]) = s.forced?.toList.length := by
  rw [warnings_append, forcedCount_append, ho.1, ho.2]
  exact ⟨by simpa using t.warned, t.counted⟩

theorem said_run (t : Tally options said s) (ho : s.options = options) {i : Nat}
    (hr : s.runs[i]? = some r) (hm : s.Moves r m o r' s') (hf : r.Fits s.state s.active)
    (hn : s.state = .draining → s.report = none) :
    warnings (said ++ [o]) = s'.forced?.toList.map (warning options) ∧
      forcedCount (said ++ [o]) = s'.forced?.toList.length := by
  obtain ⟨hc, hrep | ⟨v, inFlight, left, rfl, hrep⟩⟩ | ⟨v, report, rfl, rfl, hrep⟩ := hm.calm
  · have hs : s'.forced? = s.forced? := by rw [forced?, hrep, forced?]
    exact hs ▸ t.calm hc
  · have hs : s'.forced? = s.forced? := by
      rw [forced?, forced?, hrep, hn hf.1]
      rfl
    exact hs ▸ t.calm hc
  · have hs : s.forced? = none := by rw [forced?, hn hf.1, Option.filter_none]
    have hs' : s'.forced? = some report := by
      rw [forced?, hrep, Option.filter_some_pos (t.expired i v report hr)]
    rw [warnings_append, forcedCount_append, t.warned, t.counted, hs, hs', ← ho]
    exact ⟨rfl, rfl⟩

theorem run (t : Tally options said s) {moments : List (Server × ServerEvent)}
    (l : Life options events moments s) {i : Nat} (hr : s.runs[i]? = some r)
    (hm : s.Moves r m o r' s') :
    Tally options (said ++ [o]) { s' with runs := s.runs.set i r' } := by
  have hf := l.inTurn.fits i r hr
  obtain ⟨hw, hc⟩ := t.said_run l.inTurn.options_eq hr hm hf fun hs =>
    l.report_eq_none (by simp [hs])
  refine ⟨hw, hc, fun j v report hj => ?_, fun j q fault hj hq => ?_⟩
  · obtain ⟨rfl, hq⟩ | ⟨-, hj⟩ := getElem?_moved hj
    · obtain h | ⟨w, rfl⟩ := hm.forced_of_expired hq.symm
      · exact h
      · exact t.expired i w report hr
    · exact t.expired j v report hj
  · obtain ⟨rfl, rfl⟩ | ⟨hij, hj⟩ := getElem?_moved hj
    · obtain ⟨hrep, ⟨v, rfl⟩ | hq⟩ := hm.report_of_unable hq
      · obtain ⟨⟨a, ha⟩, -⟩ := hf
        exact hrep.trans (l.report_eq_none (by simp [ha]))
      · exact hrep.trans (t.unable i r fault hr hq)
    · obtain rfl := l.inTurn.other hr hm hij hj
      exact t.unable j q fault hj hq

theorem step (t : Tally options said s) {moments : List (Server × ServerEvent)}
    (l : Life options events moments s) (hs : s.Steps e o s') : Tally options (said ++ [o]) s' := by
  cases hs with
  | call =>
    obtain ⟨hw, hc⟩ := t.calm calm_none
    refine ⟨hw, hc, fun j v report hj => ?_, fun j q fault hj hq => ?_⟩
    · obtain hj | ⟨-, ⟨⟩⟩ := getElem?_called hj
      exact t.expired j v report hj
    · obtain hj | ⟨-, rfl⟩ := getElem?_called hj
      · exact t.unable j q fault hj hq
      · cases hq
  | interrupt cause =>
    obtain ⟨hw, hc⟩ := t.calm (calm_interrupt s cause)
    exact ⟨hw, hc, t.expired, t.unable⟩
  | pass nanos =>
    obtain ⟨hw, hc⟩ := t.calm calm_none
    refine ⟨hw, hc, fun j v report hj => ?_, fun j q fault hj hq => ?_⟩
    · obtain ⟨r, hr, he⟩ := getElem?_passed hj
      cases r <;> cases he
      exact t.expired j _ report hr
    · obtain ⟨r, hr, rfl⟩ := getElem?_passed hj
      exact t.unable j r fault hr (failure?_pass ▸ hq)
  | run i r m o r' s' hr hm => exact t.run l hr hm

end Tally

/-- A run that never serves: the server was given more permits than there can be, so that it gives up
as soon as it is bound. -/
theorem Moves.unserved (hm : s.Moves r m o r' s') (hmax : Pool.maxSize < s.options.maxConnections)
    (h : r.serving? = none) :
    r'.serving? = none ∧ s'.report = s.report ∧ Calm o ∧
      ∀ fault, r'.failure? = some (.accept fault) → r.failure? = some (.accept fault) := by
  cases hm with
  | refuse | skip | begin | bindFail => exact ⟨rfl, rfl, calm_none, by simp [ServerRun.failure?]⟩
  | bindPanic a =>
    exact ⟨rfl, rfl, calm_said (by simp [bound]), by simp [ServerRun.failure?]⟩
  | listen a hle => omega
  | _ => cases h

/-- A server none of whose runs ever serves. -/
structure Unserved (options : ServerOptions) (said : List Observed) (s : Server) : Prop where
  options_eq : s.options = options
  report_eq : s.report = none
  serving : ∀ (i : Nat) r, s.runs[i]? = some r → r.serving? = none
  able : ∀ (i : Nat) r fault, s.runs[i]? = some r → r.failure? ≠ some (.accept fault)
  warned : warnings said = []
  counted : forcedCount said = 0

namespace Unserved

theorem new (options : ServerOptions) : Unserved options [] (Server.new options) := by
  constructor <;> simp [Server.new, warnings, forcedCount]

theorem calm (u : Unserved options said s) (ho : Calm o) :
    warnings (said ++ [o]) = [] ∧ forcedCount (said ++ [o]) = 0 := by
  rw [warnings_append, forcedCount_append, ho.1, ho.2, u.warned, u.counted]
  exact ⟨rfl, rfl⟩

theorem step (u : Unserved options said s) (hmax : Pool.maxSize < options.maxConnections)
    (hs : s.Steps e o s') : Unserved options (said ++ [o]) s' := by
  cases hs with
  | call =>
    obtain ⟨hw, hc⟩ := u.calm calm_none
    refine ⟨u.options_eq, u.report_eq, fun j q hj => ?_, fun j q fault hj => ?_, hw, hc⟩
    · obtain hj | ⟨-, rfl⟩ := getElem?_called hj
      · exact u.serving j q hj
      · rfl
    · obtain hj | ⟨-, rfl⟩ := getElem?_called hj
      · exact u.able j q fault hj
      · exact nofun
  | interrupt cause =>
    obtain ⟨hw, hc⟩ := u.calm (calm_interrupt s cause)
    exact ⟨u.options_eq, u.report_eq, u.serving, u.able, hw, hc⟩
  | pass nanos =>
    obtain ⟨hw, hc⟩ := u.calm calm_none
    refine ⟨u.options_eq, u.report_eq, fun j q hj => ?_, fun j q fault hj => ?_, hw, hc⟩
    · obtain ⟨r, hr, rfl⟩ := getElem?_passed hj
      exact ServerRun.serving?_pass.trans (u.serving j r hr)
    · obtain ⟨r, hr, rfl⟩ := getElem?_passed hj
      rw [failure?_pass]
      exact u.able j r fault hr
  | run i r m o r' s' hr hm =>
    obtain ⟨hserving, hreport, hcalm, hable⟩ :=
      hm.unserved (u.options_eq ▸ hmax) (u.serving i r hr)
    obtain ⟨hw, hc⟩ := u.calm hcalm
    refine ⟨hm.options_eq.trans u.options_eq, hreport.trans u.report_eq, fun j q hj => ?_,
      fun j q fault hj => ?_, hw, hc⟩
    · obtain ⟨rfl, rfl⟩ | ⟨-, hj⟩ := getElem?_moved hj
      · exact hserving
      · exact u.serving j q hj
    · obtain ⟨rfl, rfl⟩ | ⟨-, hj⟩ := getElem?_moved hj
      · exact fun hq => u.able i r fault hr (hable fault hq)
      · exact u.able j q fault hj

end Unserved

theorem unserved_of_run (hmax : Pool.maxSize < options.maxConnections)
    (h : (new options).run? events = some (said, s)) : Unserved options said s :=
  History.run?_induction (P := fun _ said s => Unserved options said s) (Unserved.new options)
    (fun _ _ _ _ _ _ _ u hs => u.step hmax (steps_of_step? hs)) h

theorem run?_of_inTurn? (h : History.run? inTurn? (new options) events = some (said, s)) :
    (new options).run? events = some (said, s) :=
  History.run?_mono (fun _ _ _ h => (step?_of_inTurn? h).1) h

theorem tally_of_run (h : History.run? inTurn? (new options) events = some (said, s)) :
    Tally options said s := by
  by_cases hmax : options.maxConnections ≤ Pool.maxSize
  · refine History.run?_induction (P := fun _ said s => Tally options said s) (Tally.new options)
      (fun events said s e o s' hr t hs => ?_) h
    exact t.step (life_of_run hmax hr) (steps_of_step? (step?_of_inTurn? hs).1)
  · have u := unserved_of_run (Nat.lt_of_not_le hmax) (run?_of_inTurn? h)
    have hf : s.forced? = none := by rw [forced?, u.report_eq, Option.filter_none]
    refine ⟨?_, ?_, fun i v report hr => ?_, fun i r fault hr hq => ?_⟩
    · rw [u.warned, hf]
      rfl
    · rw [u.counted, hf]
      rfl
    · cases u.serving i _ hr
    · exact absurd hq (u.able i r fault hr)

end Server

end MetricsGateway
