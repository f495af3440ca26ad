import MetricsGateway.Actor.StopFlag

/-!
What a stop flag answers in the course of a history. Each answer is told from the steps before it: whether
one of them raised the flag, and whether one abandoned it.
-/

namespace MetricsGateway

namespace StopFlag

variable {f : StopFlag} {s : Step} {steps before rest : List Step}

/-- Only who still has the flag can raise it, ask it or make a listener of it. -/
def Step.needsFlag : Step → Bool
  | .raise | .isRaised | .subscribe => true
  | _ => false

theorem step_eq_gone (ha : f.abandoned = true) (hs : s.needsFlag = true) : f.step s = (.gone, f) := by
  cases s with
  | raise | isRaised | subscribe => exact if_pos ha
  | _ => cases hs

theorem step_raise (ha : f.abandoned = false) : f.step .raise = (.truth (!f.raised), f.raise.2) :=
  if_neg (Bool.eq_false_iff.mp ha)

theorem step_isRaised (ha : f.abandoned = false) : f.step .isRaised = (.truth f.raised, f) :=
  if_neg (Bool.eq_false_iff.mp ha)

theorem step_subscribe (ha : f.abandoned = false) :
    f.step .subscribe = (.listener f.listeners, f.subscribe.2) :=
  if_neg (Bool.eq_false_iff.mp ha)

theorem raised_eq_released (ha : f.abandoned = false) : f.raised = f.released := by
  rw [released, ha, Bool.or_false]

theorem released_of_abandoned (ha : f.abandoned = true) : f.released = true := by
  rw [released, ha, Bool.or_true]

/-! ## The state after some steps -/

def after (f : StopFlag) (steps : List Step) : StopFlag := steps.foldl (fun f s => (f.step s).2) f

theorem abandoned_step : (f.step s).2.abandoned = true ↔ f.abandoned = true ∨ s = .abandon := by
  cases s with
  | abandon => simp [step, abandon]
  | copy | poll => simp [step, subscribe]
  | raise | isRaised | subscribe =>
    rw [step]
    split <;> simp [raise, subscribe]

theorem released_step :
    (f.step s).2.released = true ↔ f.released = true ∨ s = .raise ∨ s = .abandon := by
  cases s with
  | abandon => simp [step]
  | copy | poll => simp [step, subscribe, released]
  | raise =>
    rw [step]
    split
    · next ha => simp [released_of_abandoned ha]
    · simp [released]
  | isRaised | subscribe =>
    rw [step]
    split <;> simp [subscribe, released]

theorem abandoned_after (f : StopFlag) (steps : List Step) :
    (f.after steps).abandoned = true ↔ f.abandoned = true ∨ .abandon ∈ steps := by
  induction steps generalizing f with
  | nil => simp [after]
  | cons s steps ih =>
    rw [after, List.foldl_cons, ← after, ih, abandoned_step, List.mem_cons, or_assoc, @eq_comm _ s]

theorem released_after (f : StopFlag) (steps : List Step) :
    (f.after steps).released = true ↔ f.released = true ∨ .raise ∈ steps ∨ .abandon ∈ steps := by
  induction steps generalizing f with
  | nil => simp [after]
  | cons s steps ih =>
    rw [after, List.foldl_cons, ← after, ih, released_step, List.mem_cons, List.mem_cons]
    grind

/-! ## The answers -/

theorem getElem?_run (f : StopFlag) (before : List Step) (s : Step) (rest : List Step) :
    (f.run (before ++ s :: rest))[before.length]? = some ((f.after before).step s).1 := by
  induction before generalizing f with
  | nil => rfl
  | cons d before ih => exact ih (f.step d).2

variable (before rest)

theorem abandoned_after_new : (new.after before).abandoned = decide (.abandon ∈ before) := by
  rw [Bool.eq_iff_iff, abandoned_after, decide_eq_true_eq]
  exact or_iff_right Bool.false_ne_true

theorem released_after_new :
    (new.after before).released = decide (.raise ∈ before ∨ .abandon ∈ before) := by
  rw [Bool.eq_iff_iff, released_after, decide_eq_true_eq]
  exact or_iff_right Bool.false_ne_true

theorem raised_after_new (h : .abandon ∉ before) :
    (new.after before).raised = decide (.raise ∈ before) := by
  have ha : (new.after before).abandoned = false := by
    rw [abandoned_after_new, decide_eq_false h]
  rw [raised_eq_released ha, released_after_new]
  exact decide_eq_decide.mpr (or_iff_left h)

/-- What a step answers that needs the flag. -/
theorem answer_of_needsFlag (hs : s.needsFlag = true) (h : .abandon ∈ before) :
    (new.run (before ++ s :: rest))[before.length]? = some .gone := by
  have ha : (new.after before).abandoned = true := by
    rw [abandoned_after_new, decide_eq_true h]
  rw [getElem?_run, step_eq_gone ha hs]

/-- Only the first raise counts. -/
theorem answer_raise : (new.run (before ++ .raise :: rest))[before.length]? =
    some (if .abandon ∈ before then .gone else .truth (.raise ∉ before)) := by
  split
  · next h => exact answer_of_needsFlag before rest rfl h
  · next h =>
    have ha : (new.after before).abandoned = false := by
      rw [abandoned_after_new, decide_eq_false h]
    rw [getElem?_run, step_raise ha, raised_after_new before h, ← decide_not]

/-- What was raised stays raised. -/
theorem answer_isRaised : (new.run (before ++ .isRaised :: rest))[before.length]? =
    some (if .abandon ∈ before then .gone else .truth (.raise ∈ before)) := by
  split
  · next h => exact answer_of_needsFlag before rest rfl h
  · next h =>
    have ha : (new.after before).abandoned = false := by
      rw [abandoned_after_new, decide_eq_false h]
    rw [getElem?_run, step_isRaised ha, raised_after_new before h]

/-- Every wait is over once the flag was raised or abandoned, and none before. -/
theorem answer_poll (listener : Nat) : (new.run (before ++ .poll listener :: rest))[before.length]? =
    some (.truth (.raise ∈ before ∨ .abandon ∈ before)) := by
  rw [getElem?_run, step, released_after_new]

end StopFlag

end MetricsGateway
