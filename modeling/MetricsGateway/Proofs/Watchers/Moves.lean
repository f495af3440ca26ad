import MetricsGateway.Actor.Signals

/-!
The moves of a run of a watcher, case by case.
-/

namespace MetricsGateway

namespace Watchers

variable {w w' : Watchers} {r r' : WatchRun} {m : WatchMove} {said : List LogRecord}

/-- Where a move takes a run. -/
inductive Moves (w : Watchers) : WatchRun → WatchMove → List LogRecord → WatchRun → Prop where
  | subscribe (n : Nat) (b : Bool) :
      Moves w ⟨n, b, .spawned⟩ .subscribe [] ⟨n, b, .waiting [] none⟩
  | refuse (n : Nat) (b : Bool) (fault : SystemFault) :
      Moves w ⟨n, b, .spawned⟩ (.refuse fault) [] ⟨n, b, .refused fault⟩
  | forward (n : Nat) (b : Bool) (signal : Signal) (rest : List Signal) (buffer : Option Signal) :
      Moves w ⟨n, b, .waiting (signal :: rest) buffer⟩ .forward []
        ⟨n, b, .waiting rest (some (buffer.getD signal))⟩
  | take (n : Nat) (b : Bool) (backlog : List Signal) (signal : Signal) :
      Moves w ⟨n, b, .waiting backlog (some signal)⟩ .take [received signal]
        ⟨n, b, .ended (some signal)⟩
  | stop (n : Nat) (b : Bool) (backlog : List Signal) (buffer : Option Signal)
      (h : w.isStopped n = true) :
      Moves w ⟨n, b, .waiting backlog buffer⟩ .stop [] ⟨n, b, .ended none⟩

theorem moveRun?_eq_some_iff : w.moveRun? r m = some (said, r') ↔ w.Moves r m said r' := by
  constructor
  · intro h
    obtain ⟨n, b, phase⟩ := r
    unfold moveRun? at h
    split at h
    · next hp =>
      cases hp
      cases h
      exact .subscribe n b
    · next fault hp =>
      cases hp
      cases h
      exact .refuse n b fault
    · next signal rest buffer hp =>
      cases hp
      cases h
      exact .forward n b signal rest buffer
    · next backlog signal hp =>
      cases hp
      cases h
      exact .take n b backlog signal
    · next backlog buffer hp =>
      cases hp
      simp only [Option.ite_none_right_eq_some, Option.some.injEq, Prod.mk.injEq] at h
      obtain ⟨hs, rfl, rfl⟩ := h
      exact .stop n b backlog buffer hs
    · cases h
  · intro h
    cases h with
    | stop n b backlog buffer h => simp [moveRun?, h]
    | _ => rfl

theorem move?_eq_some_iff {i : Nat} : w.move? i m = some (said, w') ↔
    ∃ r r', w.runs[i]? = some r ∧ w.Moves r m said r' ∧ w' = { w with runs := w.runs.set i r' } := by
  simp only [move?, Option.bind_eq_bind, Option.bind_eq_some_iff, Option.pure_def,
    Option.some.injEq, Prod.exists, Prod.mk.injEq, moveRun?_eq_some_iff]
  constructor
  · rintro ⟨r, hr, _, r', hm, rfl, rfl⟩
    exact ⟨r, r', hr, hm, rfl⟩
  · rintro ⟨r, r', hr, hm, rfl⟩
    exact ⟨r, hr, said, r', hm, rfl, rfl⟩

end Watchers

end MetricsGateway
