import MetricsGateway.Proofs.Server.Fits

/-!
The life of a server whose runs are awaited: what it publishes, how its runs end, when there is a
report about draining, and that no interrupt is lost.
-/

namespace MetricsGateway

/-- The failure that a run will end with, as far as it is known. -/
def ServerRun.failure? : ServerRun → Option Failure
  | .aborting _ (.failed fault) => some (.accept fault)
  | .ended (.failed f) => some f
  | _ => none

namespace Server

variable {s s' : Server} {r r' : ServerRun} {m : RunMove} {o : Observed} {options : ServerOptions}
  {events : List ServerEvent} {said : List Observed} {e : ServerEvent}

/-- The failure that a move brings upon its run: the server is closed already, it cannot bind, or it
cannot go on accepting. -/
def fault? (s : Server) : RunMove → Option Failure
  | .begin => if s.state = .closed then some .serverClosed else none
  | .bind (.error fault) => some (.bind s.options.listen fault)
  | .failAccept fault _ => if Failure.passes fault then none else some (.accept fault)
  | _ => none

theorem fault?_eq_accept {fault : SystemFault} (h : s.fault? m = some (.accept fault)) :
    ∃ jitter, m = .failAccept fault jitter ∧ Failure.passes fault = false := by
  unfold fault? at h
  split at h
  · split at h <;> simp at h
  · simp at h
  · next f jitter =>
    split at h
    · cases h
    · next hp =>
      simp only [Option.some.injEq, Failure.accept.injEq] at h
      subst h
      exact ⟨jitter, rfl, Bool.eq_false_iff.mpr hp⟩
  · cases h

theorem Moves.failure?_iff (hm : s.Moves r m o r' s') (x : Failure) :
    r'.failure? = some x ↔ s.fault? m = some x ∨ r.failure? = some x := by
  cases hm with
  | abort v why => cases why <;> simp [ServerRun.failure?, fault?]
  | _ => simp [ServerRun.failure?, fault?, *]

/-- Of the options and the state, only the address and being closed make a difference to what a move
brings about. -/
theorem fault?_of_new {x : Failure} (h : (new options).fault? m = some x)
    (ho : s.options = options) : s.fault? m = some x := by
  subst ho
  cases m with
  | begin => simp [fault?, new] at h
  | bind outcome => cases outcome <;> exact h
  | _ => exact h

theorem failure?_pass {nanos : Nat} : (r.pass nanos).failure? = r.failure? := by
  cases r <;> rfl

/-- What is known about the end of the only run is not forgotten. -/
theorem Steps.failure?_iff (hs : s.Steps e o s') (hcall : e ≠ .call) (h : s.runs = [r]) :
    ∃ r', s'.runs = [r'] ∧ ∀ x, r'.failure? = some x ↔
      (∃ m, e = .run 0 m ∧ s.fault? m = some x) ∨ r.failure? = some x := by
  cases hs with
  | call => exact absurd rfl hcall
  | interrupt => exact ⟨r, h, by simp⟩
  | pass nanos => exact ⟨r.pass nanos, by simp [h], by simp [failure?_pass]⟩
  | run i q m o r' s' hq hm =>
    rw [h, List.getElem?_singleton] at hq
    split at hq
    · next hi =>
      obtain rfl := Option.some.inj hq
      refine ⟨r', by simp [h, hi], fun x => ?_⟩
      rw [hm.failure?_iff]
      simp [hi]
    · cases hq

/-- How a move of a run changes what the server publishes and its report. -/
inductive Turn (r : ServerRun) (s s' : Server) : Prop where
  | stay (hs : s'.state = s.state) (hr : s'.report = s.report)
  | close (h : s.state = .idle) (hs : s'.state = .closed) (hr : s'.report = s.report)
  | listen (a : String) (h : s.state = .idle) (hs : s'.state = .listening a)
      (hr : s'.report = s.report)
  | drain (a : String) (h : s.state = .listening a) (hs : s'.state = .draining)
      (hr : s'.report = s.report)
  | fail (a : String) (fault : SystemFault) (hf : r.failure? = some (.accept fault))
      (h : s.state = .listening a) (hs : s'.state = .closed) (hr : s'.report = s.report)
  | finish (report : DrainReport) (h : s.state = .draining) (hs : s'.state = .closed)
      (hr : s'.report = some report)

theorem Moves.turn (hm : s.Moves r m o r' s') (hf : r.Fits s.state s.active) : Turn r s s' := by
  cases hm with
  | skip h => exact .close (hf.1.resolve_right h) rfl rfl
  | bindFail => exact .close hf.1 rfl rfl
  | listen a => exact .listen a hf.1 rfl rfl
  | stopAccepting v | stopPausing v =>
    obtain ⟨⟨a, ha⟩, -⟩ := hf
    exact .drain a ha rfl rfl
  | drained v inFlight left => exact .finish ⟨false, inFlight, 0⟩ hf.1 rfl rfl
  | closeFailed v fault =>
    obtain ⟨⟨a, ha⟩, -⟩ := hf
    exact .fail a fault rfl ha rfl rfl
  | closeExpired v report => exact .finish report hf.1 rfl rfl
  | _ => exact .stay rfl rfl

/-- What has been published when the server publishes its state, and the report that there is then.
A server that has listened closes without draining only if it could not go on accepting. -/
def Trail (fatal : Prop) (states : List ServerState) (s : Server) : Prop :=
  match s.state with
  | .idle => states = [.idle] ∧ s.report = none
  | .listening a => states = [.idle, .listening a] ∧ s.report = none
  | .draining => ∃ a, states = [.idle, .listening a, .draining] ∧ s.report = none
  | .closed =>
    states = [.idle, .closed] ∧ s.report = none ∨
      (∃ a, states = [.idle, .listening a, .closed] ∧ s.report = none ∧ fatal) ∨
      ∃ a, states = [.idle, .listening a, .draining, .closed] ∧ s.report.isSome

variable {fatal fatal' : Prop} {states : List ServerState}

theorem Trail.congr (t : Trail fatal states s) (hs : s'.state = s.state) (hr : s'.report = s.report)
    (hmono : fatal → fatal') : Trail fatal' states s' := by
  unfold Trail at t ⊢
  rw [hs, hr]
  split at t
  · exact t
  · exact t
  · exact t
  · exact t.imp_right (Or.imp_left fun ⟨a, ht, hn, hf⟩ => ⟨a, ht, hn, hmono hf⟩)

theorem Turn.trail (h : Turn r s s') (t : Trail fatal states s) (hmono : fatal → fatal')
    (hfatal : ∀ fault, r.failure? = some (.accept fault) → fatal') :
    Trail fatal' (states ++ if s'.state = s.state then [] else [s'.state]) s' := by
  cases h with
  | stay hs hr => simpa [hs] using t.congr hs hr hmono
  | close h hs hr =>
    simp only [Trail, h] at t
    simp only [Trail, hs, hr, h, t]
    simp
  | listen a h hs hr =>
    simp only [Trail, h] at t
    simp only [Trail, hs, hr, h, t]
    simp
  | drain a h hs hr =>
    simp only [Trail, h] at t
    simp only [Trail, hs, hr, h, t]
    simp
  | fail a fault hf h hs hr =>
    simp only [Trail, h] at t
    obtain ⟨ht, hn⟩ := t
    simp only [Trail, hs]
    exact .inr (.inl ⟨a, by simp [ht, h], hr.trans hn, hfatal fault hf⟩)
  | finish report h hs hr =>
    simp only [Trail, h] at t
    obtain ⟨a, ht, -⟩ := t
    simp only [Trail, hs, hr, h, ht]
    exact .inr (.inr ⟨a, by simp, rfl⟩)

/-- A closed server stays closed, and its report stays what it is. -/
theorem Turn.of_closed (h : Turn r s s') (hc : s.state = .closed) :
    s'.state = .closed ∧ s'.report = s.report := by
  cases h with
  | stay hs hr => exact ⟨hs.trans hc, hr⟩
  | close h | listen a h | drain a h | fail a fault hf h | finish report h => simp [hc] at h

theorem published_concat {t u : Server} (h : History.run? step? s events = some (said, t))
    (he : t.step? e = some (o, u)) : s.published (events ++ [e]) =
      s.published events ++ if u.state = t.state then [] else [u.state] := by
  induction events generalizing s said with
  | nil =>
    obtain ⟨rfl, rfl⟩ := History.run?_nil.mp h
    simp only [List.nil_append, published, he]
    split
    · next hs => simp [hs]
    · simp
  | cons d events ih =>
    obtain ⟨p, v, rest, hs, hr, rfl⟩ := History.run?_cons.mp h
    simp only [List.cons_append, published, hs]
    split
    · exact ih hr
    · rw [ih hr, List.cons_append]

/-- At one of these moments a move of this run brings this failure upon it. -/
def Brings (moments : List (Server × ServerEvent)) (i : Nat) (x : Failure) : Prop :=
  ∃ t m, (t, .run i m) ∈ moments ∧ fault? t m = some x

variable {moments : List (Server × ServerEvent)} {i : Nat} {x : Failure}

theorem Brings.mono (h : Brings moments i x) {more : List (Server × ServerEvent)} :
    Brings (moments ++ more) i x := by
  obtain ⟨t, m, hm, hx⟩ := h
  exact ⟨t, m, List.mem_append_left _ hm, hx⟩

theorem brings_concat : Brings (moments ++ [(s, e)]) i x ↔
    Brings moments i x ∨ ∃ m, e = .run i m ∧ s.fault? m = some x := by
  constructor
  · rintro ⟨t, m, hm, hx⟩
    obtain hm | hm := List.mem_append.mp hm
    · exact .inl ⟨t, m, hm, hx⟩
    · simp only [List.mem_singleton, Prod.mk.injEq] at hm
      obtain ⟨rfl, rfl⟩ := hm
      exact .inr ⟨m, rfl, hx⟩
  · rintro (h | ⟨m, rfl, hx⟩)
    · exact h.mono
    · exact ⟨s, m, by simp, hx⟩

/-- What has happened to a server whose runs are awaited and where it stands agree. -/
structure Life (options : ServerOptions) (events : List ServerEvent)
    (moments : List (Server × ServerEvent)) (s : Server) : Prop where
  inTurn : InTurn options s
  moved : ∀ t i m, (t, .run i m) ∈ moments → i < s.runs.length
  failures : ∀ (i : Nat) r, s.runs[i]? = some r → ∀ x, r.failure? = some x ↔ Brings moments i x
  trail : Trail (∃ i fault, Brings moments i (.accept fault)) ((new options).published events) s
  closed : ∀ t e, (t, e) ∈ moments → t.state = .closed → s.state = .closed ∧ s.report = t.report
  interrupted : s.stop.raised = true ↔ ∃ cause, .interrupt cause ∈ events

namespace Life

theorem new (options : ServerOptions) : Life options [] [] (Server.new options) := by
  refine ⟨.new options, by simp, by simp [Server.new], ?_, by simp, by simp [Server.new, StopFlag.new]⟩
  exact ⟨rfl, rfl⟩

theorem moved_step (l : Life options events moments s) (hs : s.Steps e o s') (t : Server) (i : Nat)
    (m : RunMove) (h : (t, .run i m) ∈ moments ++ [(s, e)]) : i < s'.runs.length := by
  have hle : s.runs.length ≤ s'.runs.length := by
    cases hs <;> simp
  obtain h | h := List.mem_append.mp h
  · exact Nat.lt_of_lt_of_le (l.moved t i m h) hle
  · simp only [List.mem_singleton, Prod.mk.injEq] at h
    obtain ⟨rfl, rfl⟩ := h
    cases hs with
    | run i r m o r' s' hr hm =>
      rw [List.length_set]
      exact (List.getElem?_eq_some_iff.mp hr).1

theorem failures_step (l : Life options events moments s) (hs : s.Steps e o s') (j : Nat)
    (q : ServerRun) (hq : s'.runs[j]? = some q) (x : Failure) :
    q.failure? = some x ↔ Brings (moments ++ [(s, e)]) j x := by
  rw [brings_concat]
  cases hs with
  | call =>
    obtain hq | ⟨hj, rfl⟩ := getElem?_called hq
    · simpa using l.failures j q hq x
    · have hn : ¬Brings moments j x := by
        rintro ⟨t, m, hm, -⟩
        have hlt := l.moved t j m hm
        omega
      simp [ServerRun.failure?, hn]
  | interrupt cause => simpa using l.failures j q hq x
  | pass nanos =>
    obtain ⟨r, hr, rfl⟩ := getElem?_passed hq
    simpa [failure?_pass] using l.failures j r hr x
  | run i r m o r' s' hr hm =>
    obtain ⟨rfl, rfl⟩ | ⟨hij, hq⟩ := getElem?_moved hq
    · rw [hm.failure?_iff, l.failures i r hr, Or.comm]
      simp
    · simpa [hij] using l.failures j q hq x

/-- What an event changes about what is published and the report. -/
theorem turn (l : Life options events moments s) (hs : s.Steps e o s') : ∃ r, Turn r s s' ∧
    ∀ fault, r.failure? = some (.accept fault) →
      ∃ i fault, Brings (moments ++ [(s, e)]) i (.accept fault) := by
  cases hs with
  | run i r m o r' s' hr hm =>
    have ht := hm.turn (l.inTurn.fits i r hr)
    refine ⟨r, ?_, fun fault hf => ⟨i, fault, ((l.failures i r hr _).mp hf).mono⟩⟩
    cases ht with
    | stay hs hr => exact .stay hs hr
    | close h hs hr => exact .close h hs hr
    | listen a h hs hr => exact .listen a h hs hr
    | drain a h hs hr => exact .drain a h hs hr
    | fail a fault hf h hs hr => exact .fail a fault hf h hs hr
    | finish report h hs hr => exact .finish report h hs hr
  | call | interrupt cause | pass nanos =>
    exact ⟨.called, .stay rfl rfl, by simp [ServerRun.failure?]⟩

theorem closed_step (l : Life options events moments s) (hs : s.Steps e o s') (t : Server)
    (d : ServerEvent) (h : (t, d) ∈ moments ++ [(s, e)]) (hc : t.state = .closed) :
    s'.state = .closed ∧ s'.report = t.report := by
  obtain ⟨r, ht, -⟩ := l.turn hs
  obtain h | h := List.mem_append.mp h
  · obtain ⟨hs, hr⟩ := l.closed t d h hc
    obtain ⟨hs', hr'⟩ := ht.of_closed hs
    exact ⟨hs', hr'.trans hr⟩
  · simp only [List.mem_singleton, Prod.mk.injEq] at h
    obtain ⟨rfl, rfl⟩ := h
    exact ht.of_closed hc

theorem interrupted_step (l : Life options events moments s) (hs : s.Steps e o s') :
    s'.stop.raised = true ↔ ∃ cause, .interrupt cause ∈ events ++ [e] := by
  have h := l.interrupted
  cases hs with
  | interrupt cause => simp
  | run i r m o r' s' hr hm => simpa [hm.stop_eq] using h
  | call | pass nanos => simpa using h

theorem trail_step (l : Life options events moments s) (hs : s.Steps e o s')
    (hp : (Server.new options).published (events ++ [e]) =
      (Server.new options).published events ++ if s'.state = s.state then [] else [s'.state]) :
    Trail (∃ i fault, Brings (moments ++ [(s, e)]) i (.accept fault))
      ((Server.new options).published (events ++ [e])) s' := by
  obtain ⟨r, ht, hfatal⟩ := l.turn hs
  rw [hp]
  exact ht.trail l.trail (fun ⟨i, fault, hb⟩ => ⟨i, fault, hb.mono⟩) hfatal

end Life

theorem life_of_run (hmax : options.maxConnections ≤ Pool.maxSize)
    (h : History.run? inTurn? (new options) events = some (said, s)) :
    Life options events (History.moments step? (new options) events) s := by
  refine History.run?_induction
    (P := fun events _ s => Life options events (History.moments step? (new options) events) s)
    (Life.new options) (fun events said s e o s' hr l hs => ?_) h
  have hstep := step?_of_inTurn? hs
  have hrun := History.run?_mono (fun _ _ _ h => (step?_of_inTurn? h).1) hr
  have hsteps := steps_of_step? hstep.1
  rw [History.moments_concat hrun hstep.1]
  exact {
    inTurn := l.inTurn.step hmax hsteps hstep.2
    moved := l.moved_step hsteps
    failures := l.failures_step hsteps
    trail := l.trail_step hsteps (published_concat hrun hstep.1)
    closed := l.closed_step hsteps
    interrupted := l.interrupted_step hsteps }

/-- A server whose runs are called one after the other, each awaited to its end, whatever happens in
between. It publishes a prefix of one of three sequences, and closes without draining after it has
listened only if it could not go on accepting. A run that has ended leaves it closed, and has failed
exactly if the server was closed already, could not bind, or could not go on accepting; one that finds
it closed changes nothing. Closed, it has a report exactly if it was draining. Each interrupt is
remembered, and a run that accepts or pauses is not kept from seeing it. -/
theorem lifecycle_of_awaited_runs (hmax : options.maxConnections ≤ Pool.maxSize)
    (h : History.run? inTurn? (new options) events = some (said, s)) :
    ((new options).published events <+: [.idle, .closed] ∨
      (∃ a, (new options).published events <+: [.idle, .listening a, .draining, .closed]) ∨
      ∃ a, (new options).published events = [.idle, .listening a, .closed] ∧
        ∃ t i fault jitter, Failure.passes fault = false ∧
          (t, .run i (.failAccept fault jitter)) ∈ History.moments step? (new options) events) ∧
    (∀ i result, s.runs[i]? = some (.ended result) →
      s.state = .closed ∧ result ≠ .panicked ∧
        ∀ x, result = .failed x ↔ ∃ t m,
          (t, .run i m) ∈ History.moments step? (new options) events ∧ fault? t m = some x) ∧
    (∀ i, s.runs[i]? = some .called → s.state = .closed → s.inTurn? (.run i .begin) =
      some (.none, { s with runs := s.runs.set i (.ended (.failed .serverClosed)) })) ∧
    (∀ t i, (t, .run i .begin) ∈ History.moments step? (new options) events → t.state = .closed →
      s.runs[i]? = some (.ended (.failed .serverClosed)) ∧ s.state = .closed ∧
        s.report = t.report) ∧
    (s.state = .closed → (s.report.isSome ↔ .draining ∈ (new options).published events)) ∧
    (s.stop.raised = true ↔ ∃ cause, .interrupt cause ∈ events) ∧
    (s.stop.raised = true → ∀ i v,
      (s.runs[i]? = some (.accepting v) ∨ ∃ left, s.runs[i]? = some (.pausing v left)) →
      ∃ o s', s.inTurn? (.run i .stop) = some (o, s') ∧ s'.state = .draining) := by
  have l := life_of_run hmax h
  have ht := l.trail
  refine ⟨?_, fun i result hr => ?_, fun i hr hc => ?_, fun t i hm hc => ?_, fun hc => ?_,
    l.interrupted, fun hs i v hv => ?_⟩
  · unfold Trail at ht
    split at ht
    · exact .inl (ht.1 ▸ by simp)
    · next a _ => exact .inr (.inl ⟨a, ht.1 ▸ by simp⟩)
    · obtain ⟨a, ht, -⟩ := ht
      exact .inr (.inl ⟨a, ht ▸ by simp⟩)
    · obtain ⟨ht, -⟩ | ⟨a, ht, -, i, fault, t, m, hm, hx⟩ | ⟨a, ht, -⟩ := ht
      · exact .inl (ht ▸ List.prefix_rfl)
      · obtain ⟨jitter, rfl, hp⟩ := fault?_eq_accept hx
        exact .inr (.inr ⟨a, ht, t, i, fault, jitter, hp, hm⟩)
      · exact .inr (.inl ⟨a, ht ▸ List.prefix_rfl⟩)
  · have hf := l.inTurn.fits i _ hr
    refine ⟨hf.1, hf.2.2, fun x => ?_⟩
    have hx := l.failures i _ hr x
    cases result <;> simpa [ServerRun.failure?, Brings] using hx
  · have hm : s.move? .called .begin = some (.none, .ended (.failed .serverClosed), s) := by
      simp [move?, Server.begin, hc]
    exact step?_run hr hm
  · obtain ⟨hs, hrep⟩ := l.closed _ _ hm hc
    refine ⟨?_, hs, hrep⟩
    have hb : Brings (History.moments step? (new options) events) i .serverClosed :=
      ⟨t, .begin, hm, by simp [fault?, hc]⟩
    have hr := List.getElem?_eq_getElem (l.moved _ _ _ hm)
    have hx := (l.failures i _ hr _).mpr hb
    rw [hr]
    unfold ServerRun.failure? at hx
    split at hx
    · cases hx
    · next hrun =>
      rw [hrun, Option.some.inj hx]
    · cases hx
  · simp only [Trail, hc] at ht
    obtain ⟨ht, hn⟩ | ⟨a, ht, hn, -⟩ | ⟨a, ht, hn⟩ := ht <;> simp [ht, hn]
  · obtain hv | ⟨left, hv⟩ := hv
    · have hd : s.move? (.accepting v) .stop = some (s.drain v) := if_pos hs
      exact ⟨_, _, step?_run hv hd, rfl⟩
    · have hd : s.move? (.pausing v left) .stop = some (s.drain v) := if_pos hs
      exact ⟨_, _, step?_run hv hd, rfl⟩

/-- A run that is interrupted with a connection open that outlasts the grace period, and another run
after it. -/
def lingering : List ServerEvent :=
  [.call, .run 0 .begin, .run 0 (.bind (.ok "127.0.0.1:9090")), .run 0 .acquire,
    .run 0 (.accept 7 "127.0.0.1:40000"), .interrupt none, .run 0 .stop, .pass 5000000000,
    .run 0 .expire, .run 0 (.abort 7), .run 0 .close, .call, .run 1 .begin]

theorem lifecycle_of_lingering :
    ∃ said s, History.run? inTurn? (new ⟨"127.0.0.1:9090", 1, .fiveSeconds⟩) lingering =
        some (said, s) ∧
      (new ⟨"127.0.0.1:9090", 1, .fiveSeconds⟩).published lingering =
        [.idle, .listening "127.0.0.1:9090", .draining, .closed] ∧
      s.report.isSome ∧ s.stop.raised = true := by
  obtain ⟨said, s, h, hc⟩ : ∃ said s, History.run? inTurn?
      (new ⟨"127.0.0.1:9090", 1, .fiveSeconds⟩) lingering = some (said, s) ∧ s.state = .closed :=
    ⟨_, _, rfl, rfl⟩
  have hmax : 1 ≤ Pool.maxSize := by decide
  have hp : (new ⟨"127.0.0.1:9090", 1, .fiveSeconds⟩).published lingering =
      [.idle, .listening "127.0.0.1:9090", .draining, .closed] := rfl
  obtain ⟨-, -, -, -, hreport, hstop, -⟩ := lifecycle_of_awaited_runs hmax h
  rw [hp] at hreport
  exact ⟨said, s, h, hp, (hreport hc).mpr (by simp), hstop.mpr ⟨none, by simp [lingering]⟩⟩

end Server

end MetricsGateway
