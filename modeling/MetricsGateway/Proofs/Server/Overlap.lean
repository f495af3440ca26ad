import MetricsGateway.Proofs.Server.Permits

/-!
Runs of one server that are called while others are under way. Main statement: as long as none begins before
the one under way has ended, the server listens once at most, stays closed, and is closed by no run while
another one serves. Nothing keeps a run from beginning earlier, and then all of this can fail.
-/

namespace MetricsGateway

namespace ServerRun

variable {r : ServerRun} {state : ServerState} {nanos : Nat}

/-- Has the run begun, and not ended yet? -/
def isUnderWay : ServerRun → Bool
  | .called | .ended _ => false
  | _ => true

theorem isUnderWay_pass : (r.pass nanos).isUnderWay = r.isUnderWay := by
  cases r <;> rfl

theorem serving?_eq_none (h : r.isUnderWay = false) : r.serving? = none := by
  cases r with
  | called | ended result => rfl
  | _ => cases h

/-- What the server publishes while the run stands where it does, if no other one is under way. -/
def Stands (state : ServerState) : ServerRun → Prop
  | .called | .ended _ => True
  | .binding => state = .idle
  | .accepting _ | .pausing _ _ | .aborting _ (.failed _) => state.isReady = true
  | .draining _ _ _ | .aborting _ (.expired _) => state = .draining

theorem stands_of_not_isUnderWay (h : r.isUnderWay = false) : r.Stands state := by
  cases r with
  | called | ended result => trivial
  | _ => cases h

theorem stands_pass : (r.pass nanos).Stands state ↔ r.Stands state := by
  cases r <;> rfl

end ServerRun

namespace Server

variable {s s' : Server} {r r' : ServerRun} {m : RunMove} {o : Observed} {options : ServerOptions}
  {events : List ServerEvent} {said : List Observed} {e : ServerEvent} {x : ServerState} {i : Nat}

/-! ## What runs publish -/

/-- The state that a run publishes by a move. It may publish one that was published before. -/
def publication? (s : Server) : RunMove → Option ServerState
  | .begin => if s.state ≠ .closed && s.stop.raised then some .closed else none
  | .bind (.error _) => some .closed
  | .bind (.ok address) =>
    if Pool.maxSize < s.options.maxConnections then none else some (.listening address)
  | .stop => some .draining
  | .drained | .close => some .closed
  | _ => none

theorem Moves.state_eq (hm : s.Moves r m o r' s') : s'.state = (s.publication? m).getD s.state := by
  cases hm with
  | refuse h | skip h | begin h => simp [publication?, *]
  | listen address h => simp [publication?, Nat.not_lt.mpr h]
  | bindPanic address h => simp [publication?, h]
  | _ => rfl

theorem publication?_ne_idle : s.publication? m ≠ some .idle := by
  cases m with
  | begin =>
    simp only [publication?]
    split <;> simp
  | bind outcome =>
    cases outcome with
    | error fault => simp [publication?]
    | ok address =>
      simp only [publication?]
      split <;> simp
  | _ => simp [publication?]

/-- Only a run that binds publishes that the server listens. -/
theorem Moves.binding_of_publication? (hm : s.Moves r m o r' s') (h : s.publication? m = some x)
    (hx : x.isReady = true) : r = .binding := by
  cases hm with
  | bindFail | bindPanic | listen => rfl
  | refuse hc | skip hc | begin hc =>
    simp only [publication?] at h
    split at h <;> cases h
    cases hx
  | _ => cases h <;> cases hx

/-- Does a run publish by this event that the server listens? -/
def announces (s : Server) : ServerEvent → Bool
  | .run _ m => (s.publication? m).any (·.isReady)
  | _ => false

/-- How often runs publish that the server listens. -/
def listenings (s : Server) (events : List ServerEvent) : Nat :=
  (History.moments step? s events).countP fun (t, e) => t.announces e

theorem listenings_concat {t u : Server} (h : History.run? step? s events = some (said, t))
    (he : t.step? e = some (o, u)) :
    s.listenings (events ++ [e]) = s.listenings events + if t.announces e then 1 else 0 := by
  rw [listenings, History.moments_concat h he, List.countP_append, List.countP_singleton]
  rfl

/-- Nothing leads back to an idle server. -/
theorem Steps.idle (hs : s.Steps e o s') (h : s'.state = .idle) :
    s.state = .idle ∧ s.announces e = false := by
  cases hs with
  | call | interrupt | pass => exact ⟨h, rfl⟩
  | run i r m o r' s' hr hm =>
    have hstate : s'.state = (s.publication? m).getD s.state := hm.state_eq
    cases hp : s.publication? m with
    | none =>
      rw [hp, Option.getD_none] at hstate
      exact ⟨hstate.symm.trans h, by simp [announces, hp]⟩
    | some x =>
      rw [hp, Option.getD_some] at hstate
      obtain rfl := hstate.symm.trans h
      exact absurd hp publication?_ne_idle

/-! ## Runs that begin one after the other -/

/-- One event of a server whose runs may be called at any time, but none begins while another one is under
way. -/
def singly? (s : Server) : ServerEvent → Option (Observed × Server)
  | .run i .begin => if s.runs.all (!·.isUnderWay) then s.step? (.run i .begin) else none
  | e => s.step? e

theorem step?_of_singly? (h : s.singly? e = some (o, s')) : s.step? e = some (o, s') ∧
    ∀ i, e = .run i .begin → ∀ r ∈ s.runs, r.isUnderWay = false := by
  unfold singly? at h
  split at h
  · simp only [List.all_eq_true, Bool.not_eq_true', Option.ite_none_right_eq_some] at h
    exact ⟨h.2, fun _ _ => h.1⟩
  · next hbegin => exact ⟨h, fun i he => absurd he (hbegin i)⟩

/-- One run is under way at most, the server publishes where it stands, and without it the server has not
listened yet or is closed. -/
structure Single (s : Server) : Prop where
  stands : ∀ (i : Nat) r, s.runs[i]? = some r → r.Stands s.state
  alone : ∀ (i j : Nat) q r, s.runs[i]? = some q → s.runs[j]? = some r → q.isUnderWay = true →
    r.isUnderWay = true → i = j
  resting : (∀ r ∈ s.runs, r.isUnderWay = false) → s.state = .idle ∨ s.state = .closed

theorem Moves.stands (hm : s.Moves r m o r' s') (hr : r.Stands s.state)
    (hbegin : m = .begin → s.state = .idle ∨ s.state = .closed) :
    r'.Stands s'.state ∧ (r'.isUnderWay = false → s'.state = .idle ∨ s'.state = .closed) := by
  cases hm with
  | refuse h => exact ⟨trivial, fun _ => .inr h⟩
  | begin h => exact ⟨(hbegin rfl).resolve_right h, nofun⟩
  | bindPanic => exact ⟨trivial, fun _ => .inl hr⟩
  | skip | bindFail | drained | closeFailed | closeExpired => exact ⟨trivial, fun _ => .inr rfl⟩
  | listen | stopAccepting | stopPausing => exact ⟨rfl, nofun⟩
  | abort v why => cases why <;> exact ⟨hr, nofun⟩
  | _ => exact ⟨hr, nofun⟩

/-- A closed server stays closed. -/
theorem Moves.closed (hm : s.Moves r m o r' s') (hr : r.Stands s.state) (hc : s.state = .closed) :
    s'.state = .closed := by
  rw [hc] at hr
  cases hm with
  | listen | stopAccepting | stopPausing => cases hr
  | skip | bindFail | drained | closeFailed | closeExpired => rfl
  | _ => exact hc

/-- What moves is under way, or begins. -/
theorem Moves.isUnderWay_or (hm : s.Moves r m o r' s') : r.isUnderWay = true ∨ m = .begin := by
  cases hm with
  | refuse | skip | begin => exact .inr rfl
  | _ => exact .inl rfl

namespace Single

theorem new (options : ServerOptions) : Single (Server.new options) := by
  constructor <;> simp [Server.new]

/-- While one run moves no other is under way. -/
theorem others (h : Single s) (hr : s.runs[i]? = some r) (hm : s.Moves r m o r' s')
    (hbegin : m = .begin → ∀ q ∈ s.runs, q.isUnderWay = false) (j : Nat) (q : ServerRun) (hij : i ≠ j)
    (hq : s.runs[j]? = some q) : q.isUnderWay = false := by
  obtain hway | hm := hm.isUnderWay_or
  · by_contra hne
    exact hij (h.alone i j r q hr hq hway (by simpa using hne))
  · exact hbegin hm q (List.mem_of_getElem? hq)

theorem call (h : Single s) : Single { s with runs := s.runs ++ [.called] } := by
  constructor
  · intro i r hr
    obtain hr | ⟨-, rfl⟩ := getElem?_called hr
    · exact h.stands i r hr
    · trivial
  · intro i j q r hq hr hqw hrw
    obtain hq | ⟨-, rfl⟩ := getElem?_called hq
    · obtain hr | ⟨-, rfl⟩ := getElem?_called hr
      · exact h.alone i j q r hq hr hqw hrw
      · cases hrw
    · cases hqw
  · intro hall
    exact h.resting fun r hr => hall r (List.mem_append_left _ hr)

theorem pass (h : Single s) (nanos : Nat) :
    Single { s with runs := s.runs.map (ServerRun.pass nanos) } := by
  constructor
  · intro i r hr
    obtain ⟨q, hq, rfl⟩ := getElem?_passed hr
    exact ServerRun.stands_pass.mpr (h.stands i q hq)
  · intro i j _ _ hq hr hqw hrw
    obtain ⟨q, hq', rfl⟩ := getElem?_passed hq
    obtain ⟨r, hr', rfl⟩ := getElem?_passed hr
    rw [ServerRun.isUnderWay_pass] at hqw hrw
    exact h.alone i j q r hq' hr' hqw hrw
  · intro hall
    apply h.resting
    intro r hr
    exact ServerRun.isUnderWay_pass.symm.trans (hall (r.pass nanos) (List.mem_map_of_mem hr))

theorem run (h : Single s) (hr : s.runs[i]? = some r) (hm : s.Moves r m o r' s')
    (hbegin : m = .begin → ∀ q ∈ s.runs, q.isUnderWay = false) :
    Single { s' with runs := s.runs.set i r' } := by
  have hothers := h.others hr hm hbegin
  have hi : i < s.runs.length := (List.getElem?_eq_some_iff.mp hr).1
  obtain ⟨hstands, hresting⟩ := hm.stands (h.stands i r hr) fun hb => h.resting (hbegin hb)
  constructor
  · intro j q hq
    obtain ⟨rfl, rfl⟩ | ⟨hij, hq⟩ := getElem?_moved hq
    · exact hstands
    · exact ServerRun.stands_of_not_isUnderWay (hothers j q hij hq)
  · intro j k p q hp hq hpw hqw
    obtain ⟨rfl, rfl⟩ | ⟨hij, hp⟩ := getElem?_moved hp
    · obtain ⟨rfl, rfl⟩ | ⟨hik, hq⟩ := getElem?_moved hq
      · rfl
      · rw [hothers k q hik hq] at hqw
        cases hqw
    · rw [hothers j p hij hp] at hpw
      cases hpw
  · intro hall
    exact hresting (hall r' (List.mem_set hi r'))

theorem step (h : Single s) (hs : s.Steps e o s')
    (hbegin : ∀ i, e = .run i .begin → ∀ q ∈ s.runs, q.isUnderWay = false) : Single s' := by
  cases hs with
  | call => exact h.call
  | interrupt => exact ⟨h.stands, h.alone, h.resting⟩
  | pass nanos => exact h.pass nanos
  | run i r m o r' s' hr hm => exact h.run hr hm fun hm => hbegin i (hm ▸ rfl)

/-- Only an idle server starts to listen. -/
theorem idle_of_announces (h : Single s) (hs : s.Steps e o s') (ha : s.announces e = true) :
    s.state = .idle := by
  cases hs with
  | call | interrupt | pass => cases ha
  | run i r m o r' s' hr hm =>
    cases hp : s.publication? m with
    | none => simp [announces, hp] at ha
    | some x =>
      have hx : x.isReady = true := by simpa [announces, hp] using ha
      obtain rfl := hm.binding_of_publication? hp hx
      exact h.stands i .binding hr

end Single

/-! ## Serving once -/

/-- What a server that serves once does not do in the course of a history that leads to `s`. -/
structure ServesOnce (options : ServerOptions) (events : List ServerEvent) (s : Server) : Prop where
  listens : (new options).listenings events ≤ 1
  stays : ∀ t e, (t, e) ∈ History.moments step? (new options) events → t.state = .closed →
    s.state = .closed
  /-- No run publishes that the server is closed while another one accepts or drains connections. -/
  closes : ∀ t i m, (t, .run i m) ∈ History.moments step? (new options) events →
    t.publication? m = some .closed → ∀ j r, i ≠ j → t.runs[j]? = some r → r.serving? = none

/-- What has happened to a server of which one run is under way at most. -/
structure Once (options : ServerOptions) (events : List ServerEvent) (s : Server) : Prop where
  single : Single s
  fresh : s.state = .idle → (new options).listenings events = 0
  serves : ServesOnce options events s

namespace Once

theorem new (options : ServerOptions) : Once options [] (Server.new options) := by
  refine ⟨.new options, fun _ => rfl, Nat.zero_le 1, ?_, ?_⟩
  · intro t e ht
    cases ht
  · intro t i m ht
    cases ht

theorem stays_step (h : Once options events s) (hs : s.Steps e o s') (hc : s.state = .closed) :
    s'.state = .closed := by
  cases hs with
  | call | interrupt | pass => exact hc
  | run i r m o r' s' hr hm => exact hm.closed (h.single.stands i r hr) hc

end Once

theorem once_of_run (h : History.run? singly? (new options) events = some (said, s)) :
    Once options events s := by
  refine History.run?_induction (P := fun events _ s => Once options events s) (Once.new options)
    (fun events said s e o s' hadmitted hl hs => ?_) h
  obtain ⟨hstep, hbegin⟩ := step?_of_singly? hs
  have hrun := History.run?_mono (fun _ _ _ h => (step?_of_singly? h).1) hadmitted
  have hsteps : s.Steps e o s' := steps_of_step? hstep
  refine ⟨hl.single.step hsteps hbegin, fun hidle => ?_, ?_, ?_, ?_⟩
  · obtain ⟨hwas, hno⟩ := hsteps.idle hidle
    rw [listenings_concat hrun hstep, hl.fresh hwas, hno]
    rfl
  · rw [listenings_concat hrun hstep]
    split
    · next ha => exact (hl.fresh (hl.single.idle_of_announces hsteps ha)).symm ▸ Nat.le_refl 1
    · exact hl.serves.listens
  · intro t d ht hc
    rw [History.moments_concat hrun hstep] at ht
    obtain ht | ht := List.mem_append.mp ht
    · exact hl.stays_step hsteps (hl.serves.stays t d ht hc)
    · obtain ⟨rfl, rfl⟩ := Prod.mk.inj (List.mem_singleton.mp ht)
      exact hl.stays_step hsteps hc
  · intro t i m ht hp j r hij hr
    rw [History.moments_concat hrun hstep] at ht
    obtain ht | ht := List.mem_append.mp ht
    · exact hl.serves.closes t i m ht hp j r hij hr
    · obtain ⟨rfl, rfl⟩ := Prod.mk.inj (List.mem_singleton.mp ht)
      cases hsteps with
      | run i q m o q' s' hq hm =>
        have hway := hl.single.others hq hm (fun hm => hbegin i (hm ▸ rfl)) j r hij hr
        exact ServerRun.serving?_eq_none hway

/-- A server whose runs and interrupts come in any order, except that none of its runs begins while another
one is under way, serves once. -/
theorem serves_once_of_singly (h : History.run? singly? (new options) events = some (said, s)) :
    ServesOnce options events s := (once_of_run h).serves

/-- Two runs that are called at once, one after the other, while two interrupts arrive. -/
def queued : List ServerEvent :=
  [.call, .call, .run 0 .begin, .run 0 (.bind (.ok "127.0.0.1:40001")), .run 0 .acquire, .interrupt none,
    .run 0 (.accept 7 "127.0.0.1:50001"), .run 0 .stop, .interrupt none, .run 0 (.finish 7 false),
    .run 0 .drained, .run 1 .begin]

theorem serves_once_of_queued : ∃ said s,
    History.run? singly? (new ⟨"127.0.0.1:0", 1, .fiveSeconds⟩) queued = some (said, s) ∧
      (new ⟨"127.0.0.1:0", 1, .fiveSeconds⟩).listenings queued = 1 ∧
      ServesOnce ⟨"127.0.0.1:0", 1, .fiveSeconds⟩ queued s := by
  obtain ⟨said, s, h⟩ : ∃ said s, History.run? singly? (new ⟨"127.0.0.1:0", 1, .fiveSeconds⟩) queued =
      some (said, s) := ⟨_, _, rfl⟩
  exact ⟨said, s, h, rfl, serves_once_of_singly h⟩

/-- Three runs that begin before the server is closed. Two find a free port each, the third finds that no
more files can be opened and closes the server while the others accept; the first is stopped and drains. -/
def overlapping : List ServerEvent :=
  [.call, .call, .call, .run 0 .begin, .run 1 .begin, .run 2 .begin,
    .run 0 (.bind (.ok "127.0.0.1:40001")), .run 1 (.bind (.ok "127.0.0.1:40002")),
    .run 2 (.bind (.error (.code 24))), .interrupt none, .run 0 .stop]

theorem serves_twice_of_overlapping : ∃ said s,
    History.run? step? (new ⟨"127.0.0.1:0", 1, .fiveSeconds⟩) overlapping = some (said, s) ∧
      (new ⟨"127.0.0.1:0", 1, .fiveSeconds⟩).listenings overlapping = 2 ∧
      (∃ t r, (t, .interrupt none) ∈
          History.moments step? (new ⟨"127.0.0.1:0", 1, .fiveSeconds⟩) overlapping ∧
        t.state = .closed ∧ t.runs[0]? = some r ∧ r.serving?.isSome) ∧
      s.state = .draining ∧ ¬ ServesOnce ⟨"127.0.0.1:0", 1, .fiveSeconds⟩ overlapping s := by
  refine ⟨_, _, rfl, rfl, ⟨_, _, List.mem_of_getElem? (i := 9) rfl, rfl, rfl, rfl⟩, rfl, fun h => ?_⟩
  exact absurd h.listens (by decide)

end Server

end MetricsGateway
