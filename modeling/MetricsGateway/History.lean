/-!
Histories of machines that move step by step. A step answers something and leads to a next state,
unless the machine does not admit it; a history is admitted when each of its steps is.
-/

namespace MetricsGateway.History

variable {S E O : Type}

/-- The answers to the steps of a history and the state after it; none when a step is not admitted. -/
def run? (step? : S → E → Option (O × S)) (s : S) : List E → Option (List O × S)
  | [] => some ([], s)
  | e :: rest => do
    let (o, s) ← step? s e
    let (more, s) ← run? step? s rest
    pure (o :: more, s)

/-- The events of a history, each with the state in which it happens. -/
def moments (step? : S → E → Option (O × S)) (s : S) : List E → List (S × E)
  | [] => []
  | e :: rest =>
    match step? s e with
    | none => []
    | some (_, t) => (s, e) :: moments step? t rest

variable {step? : S → E → Option (O × S)} {s t u : S} {e : E} {o : O} {es more : List E}
  {os further : List O}

@[simp] theorem run?_nil : run? step? s [] = some (os, t) ↔ os = [] ∧ t = s := by
  simp [run?, eq_comm]

theorem run?_cons : run? step? s (e :: es) = some (os, t) ↔
    ∃ o u rest, step? s e = some (o, u) ∧ run? step? u es = some (rest, t) ∧ os = o :: rest := by
  simp only [run?, Option.bind_eq_bind, Option.bind_eq_some_iff, Option.pure_def,
    Option.some.injEq, Prod.exists, Prod.mk.injEq]
  constructor
  · rintro ⟨o, u, h, rest, v, hr, rfl, rfl⟩
    exact ⟨o, u, rest, h, hr, rfl⟩
  · rintro ⟨o, u, rest, h, hr, rfl⟩
    exact ⟨o, u, h, rest, t, hr, rfl, rfl⟩

theorem run?_append (h : run? step? s es = some (os, t))
    (h' : run? step? t more = some (further, u)) :
    run? step? s (es ++ more) = some (os ++ further, u) := by
  induction es generalizing s os with
  | nil =>
    obtain ⟨rfl, rfl⟩ := run?_nil.mp h
    simpa using h'
  | cons e es ih =>
    obtain ⟨o, v, rest, hs, hr, rfl⟩ := run?_cons.mp h
    exact run?_cons.mpr ⟨o, v, rest ++ further, hs, ih hr, rfl⟩

/-- A history is taken apart where its events are. -/
theorem exists_of_run?_append (h : run? step? s (es ++ more) = some (os, u)) :
    ∃ before t after, run? step? s es = some (before, t) ∧ run? step? t more = some (after, u) ∧
      os = before ++ after := by
  induction es generalizing s os with
  | nil => exact ⟨[], s, os, run?_nil.mpr ⟨rfl, rfl⟩, h, rfl⟩
  | cons e es ih =>
    obtain ⟨o, v, rest, hs, hr, rfl⟩ := run?_cons.mp h
    obtain ⟨before, t, after, hb, ha, rfl⟩ := ih hr
    exact ⟨o :: before, t, after, run?_cons.mpr ⟨o, v, before, hs, hb, rfl⟩, ha, rfl⟩

theorem run?_single (h : step? s e = some (o, t)) : run? step? s [e] = some ([o], t) :=
  run?_cons.mpr ⟨o, t, [], h, run?_nil.mpr ⟨rfl, rfl⟩, rfl⟩

theorem run?_concat (h : run? step? s es = some (os, t)) (he : step? t e = some (o, u)) :
    run? step? s (es ++ [e]) = some (os ++ [o], u) :=
  run?_append h (run?_single he)

/-- A machine that admits more has all the histories of one that admits less. -/
theorem run?_mono {step?' : S → E → Option (O × S)}
    (hle : ∀ s e x, step? s e = some x → step?' s e = some x) (h : run? step? s es = some (os, t)) :
    run? step?' s es = some (os, t) := by
  induction es generalizing s os with
  | nil => exact run?_nil.mpr (run?_nil.mp h)
  | cons e es ih =>
    obtain ⟨o, v, rest, hs, hr, rfl⟩ := run?_cons.mp h
    exact run?_cons.mpr ⟨o, v, rest, hle _ _ _ hs, ih hr, rfl⟩

theorem moments_concat (h : run? step? s es = some (os, t)) (he : step? t e = some (o, u)) :
    moments step? s (es ++ [e]) = moments step? s es ++ [(t, e)] := by
  induction es generalizing s os with
  | nil =>
    obtain ⟨rfl, rfl⟩ := run?_nil.mp h
    simp [moments, he]
  | cons e' es ih =>
    obtain ⟨o', v, rest, hs, hr, rfl⟩ := run?_cons.mp h
    simp only [List.cons_append, moments, hs, ih hr]

/-- What holds at the start and is kept by each step holds after every history. The step may use that
the state before it was reached by the history so far. -/
theorem run?_induction {P : List E → List O → S → Prop} (start : P [] [] s)
    (step : ∀ es os t e o u, run? step? s es = some (os, t) → P es os t →
      step? t e = some (o, u) → P (es ++ [e]) (os ++ [o]) u)
    (h : run? step? s es = some (os, t)) : P es os t := by
  suffices go : ∀ past before v, run? step? s past = some (before, v) → P past before v →
      ∀ es os, run? step? v es = some (os, t) → P (past ++ es) (before ++ os) t from
    go [] [] s (run?_nil.mpr ⟨rfl, rfl⟩) start es os h
  intro past before v hv hp es
  induction es generalizing past before v with
  | nil =>
    intro os h
    obtain ⟨rfl, rfl⟩ := run?_nil.mp h
    simpa using hp
  | cons e es ih =>
    intro os h
    obtain ⟨o, w, rest, hs, hr, rfl⟩ := run?_cons.mp h
    have hp' := step past before v e o w hv hp hs
    simpa using ih (past ++ [e]) (before ++ [o]) w (run?_concat hv hs) hp' rest hr

end MetricsGateway.History
