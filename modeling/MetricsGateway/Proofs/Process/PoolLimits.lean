import MetricsGateway.Process.Launch
import MetricsGateway.Proofs.Server.Moves
import MetricsGateway.Proofs.Setup.Validation

/-!
What checked flags can still break. Main statement: with flags that are accepted, building the services
crashes a launch exactly if there are more buffers than a pool can hold, and a run of the server panics exactly
if there are more permits than that, whatever the other flags say. The check of the flags lets both through.
-/

namespace MetricsGateway

/-! ## Accepted flags -/

namespace Flags

variable {v : Flags} {env : Environment} {o : Options}

/-- Options keep the numbers that the flags give, and there are none for flags with a fault. -/
theorem options_of_validate (h : v.validate env = .ok o) :
    v.errors = [] ∧ o.proxy.bufferCount = v.bufferCount ∧ o.server.maxConnections = v.maxConnections := by
  obtain ⟨herrors, hconfigures⟩ := configures_of_validate h
  exact ⟨herrors, hconfigures.buffers.1, hconfigures.connections⟩

end Flags

/-! ## Launches that crash -/

namespace Launch

/-- A run of the services that comes to its end does not end like a crash. -/
theorem exitStatus_ne_crashed (o : Outcome) : o.exitStatus ≠ crashed := by
  unfold Outcome.exitStatus
  split <;> decide

theorem status_eq_crashed_iff (m : Machine) (o : Options) : (withOptions m o).status = crashed ↔
    (∃ workers, m.runtime = .ok workers) ∧ Pool.maxSize < o.proxy.bufferCount := by
  unfold withOptions
  cases m.runtime with
  | error fault => simp [status, crashed]
  | ok workers =>
    by_cases hlt : Pool.maxSize < o.proxy.bufferCount
    · simp [hlt, status]
    · simp [hlt, status, exitStatus_ne_crashed]

end Launch

/-! ## Servers that panic -/

namespace Server

variable {options : ServerOptions} {s s' : Server} {r r' : ServerRun} {m : RunMove} {o : Observed}
  {events : List ServerEvent} {said : List Observed} {e : ServerEvent} {i : Nat}

theorem Moves.lt_of_panicked (hm : s.Moves r m o r' s') (h : r' = ServerRun.ended .panicked) :
    Pool.maxSize < s.options.maxConnections := by
  cases hm with
  | bindPanic address hlt => exact hlt
  | _ => cases h

theorem pass_eq_ended {nanos : Nat} {how : RunEnd} (h : r.pass nanos = .ended how) : r = .ended how := by
  cases r <;> first | exact h | cases h

/-- Runs panic only where there are more permits than a pool can hold. -/
structure Careful (options : ServerOptions) (s : Server) : Prop where
  options_eq : s.options = options
  lt_of_panicked : ∀ i : Nat, s.runs[i]? = some (ServerRun.ended .panicked) →
    Pool.maxSize < options.maxConnections

theorem Careful.step (c : Careful options s) (h : s.Steps e o s') : Careful options s' := by
  cases h with
  | call =>
    refine ⟨c.options_eq, fun i hi => ?_⟩
    obtain hi | ⟨-, ⟨⟩⟩ := getElem?_called hi
    exact c.lt_of_panicked i hi
  | interrupt cause => exact ⟨c.options_eq, c.lt_of_panicked⟩
  | pass nanos =>
    refine ⟨c.options_eq, fun i hi => ?_⟩
    obtain ⟨r, hr, hend⟩ := getElem?_passed hi
    exact c.lt_of_panicked i (pass_eq_ended hend.symm ▸ hr)
  | run i r m o r' s' hr hm =>
    refine ⟨hm.options_eq.trans c.options_eq, fun j hj => ?_⟩
    obtain ⟨-, hend⟩ | ⟨-, hj⟩ := getElem?_moved hj
    · exact c.options_eq ▸ hm.lt_of_panicked hend.symm
    · exact c.lt_of_panicked j hj

theorem careful_of_run (h : (new options).run? events = some (said, s)) : Careful options s := by
  refine History.run?_induction (P := fun _ _ s => Careful options s) ⟨rfl, ?_⟩ ?_ h
  · exact fun _ h => by cases h
  · exact fun _ _ _ _ _ _ _ c hstep => c.step (steps_of_step? hstep)

theorem step?_bind {outcome : Except SystemFault String} (h : s.runs[i]? = some .binding) :
    s.step? (.run i (.bind outcome)) =
      some ((s.bind outcome).1, { (s.bind outcome).2.2 with runs := s.runs.set i (s.bind outcome).2.1 }) :=
  step?_run h rfl

theorem bind_ok_of_lt {address : String} (h : Pool.maxSize < s.options.maxConnections) :
    (s.bind (.ok address)).2.1 = .ended .panicked := by
  simp only [Server.bind, if_pos h]

theorem bind_ok_of_le {address : String} (h : s.options.maxConnections ≤ Pool.maxSize) :
    (s.bind (.ok address)).2.2.state = .listening address := by
  simp only [Server.bind, if_neg (Nat.not_lt_of_le h)]

end Server

/-! ## What the check of the flags lets through -/

variable {v : Flags} {env : Environment} {o : Options}

/-- With accepted flags a launch crashes exactly if there is a runtime and more buffers than a pool can hold.
In every history of its server a run panics only if there are more permits than that; a run that binds ends
with an error where binding fails, and where it succeeds it listens, unless there are too many permits, in
which case it panics. No other flag makes a difference. -/
theorem panics_iff_oversized (h : v.validate env = .ok o) :
    (∀ m, (Launch.withOptions m o).status = Launch.crashed ↔
      (∃ workers, m.runtime = .ok workers) ∧ Pool.maxSize < v.bufferCount) ∧
    ∀ events said s, (Server.new o.server).run? events = some (said, s) → ∀ i : Nat,
      (s.runs[i]? = some (.ended .panicked) → Pool.maxSize < v.maxConnections) ∧
      (s.runs[i]? = some .binding →
        (∀ fault, ∃ told t, s.step? (.run i (.bind (.error fault))) = some (told, t) ∧
          t.runs[i]? = some (.ended (.failed (.bind o.server.listen fault)))) ∧
        ∀ address, ∃ told t, s.step? (.run i (.bind (.ok address))) = some (told, t) ∧
          if Pool.maxSize < v.maxConnections then t.runs[i]? = some (.ended .panicked)
          else t.state = .listening address) := by
  obtain ⟨-, hbuffers, hpermits⟩ := Flags.options_of_validate h
  refine ⟨fun m => hbuffers ▸ Launch.status_eq_crashed_iff m o, fun events said s hrun i => ?_⟩
  have c := Server.careful_of_run hrun
  refine ⟨fun hi => hpermits ▸ c.lt_of_panicked i hi, fun hi => ?_⟩
  obtain ⟨hlt, -⟩ := List.getElem?_eq_some_iff.mp hi
  refine ⟨fun fault => ⟨_, _, Server.step?_bind hi, ?_⟩, fun address => ⟨_, _, Server.step?_bind hi, ?_⟩⟩
  · rw [List.getElem?_set_self hlt, Server.bind, c.options_eq]
  · rw [← hpermits, ← c.options_eq]
    split
    · next hlarge => rw [List.getElem?_set_self hlt, Server.bind_ok_of_lt hlarge]
    · next hfits => exact Server.bind_ok_of_le (Nat.le_of_not_lt hfits)

/-- Flags that ask for as many buffers as permits and are as they stand otherwise. -/
def crowded (count : Nat) : Flags :=
  { Flags.default with
    queryEndpoint := "http://[::1]/"
    writeEndpoint := "http://[::1]/"
    maxConnections := count
    bufferCount := count }

theorem panics_iff_crowded : ∃ o, (crowded Pool.maxSize).validate ⟨false, false⟩ = .ok o ∧
    (∀ m, (Launch.withOptions m o).status ≠ Launch.crashed) ∧
    ∀ events said s, (Server.new o.server).run? events = some (said, s) →
      ∀ i : Nat, s.runs[i]? ≠ some (.ended .panicked) := by
  obtain ⟨o, h⟩ := Flags.exists_validate (v := crowded Pool.maxSize) ⟨false, false⟩ (by decide +kernel)
  obtain ⟨hlaunch, hserver⟩ := panics_iff_oversized h
  exact ⟨o, h, fun m hcrash => Nat.lt_irrefl _ ((hlaunch m).mp hcrash).2,
    fun events said s hrun i hi => Nat.lt_irrefl _ ((hserver events said s hrun i).1 hi)⟩

/-- One buffer and one permit more than a pool can hold are accepted, and both break. -/
theorem accepted_and_broken : ∃ o, (crowded (Pool.maxSize + 1)).validate ⟨false, false⟩ = .ok o ∧
    (Launch.withOptions ⟨⟨false, false⟩, none, .ok 1, ⟨[], 40000⟩, .terminate⟩ o).status = Launch.crashed ∧
    ∃ said s, (Server.new o.server).run? [.call, .run 0 .begin, .run 0 (.bind (.ok "[::1]:8080"))] =
      some (said, s) ∧ s.runs = [.ended .panicked] := by
  obtain ⟨o, h⟩ := Flags.exists_validate (v := crowded (Pool.maxSize + 1)) ⟨false, false⟩ (by decide +kernel)
  obtain ⟨-, hbuffers, hpermits⟩ := Flags.options_of_validate h
  have hlarge : Pool.maxSize < (crowded (Pool.maxSize + 1)).bufferCount := Nat.lt_succ_self _
  refine ⟨o, h, (Launch.status_eq_crashed_iff _ o).mpr ⟨⟨1, rfl⟩, hbuffers ▸ hlarge⟩, ?_⟩
  have hlt : Pool.maxSize < o.server.maxConnections := hpermits ▸ hlarge
  refine ⟨_, _, History.run?_cons.mpr ⟨_, _, _, rfl, History.run?_cons.mpr ⟨_, _, _, rfl,
    History.run?_single (Server.step?_bind rfl), rfl⟩, rfl⟩, ?_⟩
  exact congrArg ([·]) (Server.bind_ok_of_lt hlt)

end MetricsGateway
