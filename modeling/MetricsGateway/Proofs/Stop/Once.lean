import MetricsGateway.Proofs.Server.Moves
import MetricsGateway.Proofs.Stop.Listeners
import MetricsGateway.Proofs.Watchers.FirstSignal

/-!
Stopping once. Main statement: only the first raise of a flag counts, it stays raised, and every wait of every
listener is over once it was raised or abandoned. So of the interrupts of a server, and of those of a watcher,
only the first is logged, and a history with further ones is the history without them.
-/

namespace MetricsGateway

namespace History

variable {S E O : Type} {step? : S → E → Option (O × S)} {first? : E → Option O} {s t u : S} {e : E} {o silent : O}
  {before after : List E} {said : List O}

theorem run?_append_eq (h : run? step? s before = some (said, t)) (after : List E) :
    run? step? s (before ++ after) = (run? step? t after).map fun out => (said ++ out.1, out.2) := by
  cases hafter : run? step? t after with
  | some out => exact run?_append h hafter
  | none =>
    cases hall : run? step? s (before ++ after) with
    | none => rfl
    | some out =>
      obtain ⟨_, v, later, hv, hlater, -⟩ := exists_of_run?_append hall
      rw [hv] at h
      cases h
      rw [hafter] at hlater
      cases hlater

theorem run?_append_eq_none (h : run? step? s before = none) (after : List E) :
    run? step? s (before ++ after) = none := by
  cases hall : run? step? s (before ++ after) with
  | none => rfl
  | some out =>
    obtain ⟨_, _, _, hv, -⟩ := exists_of_run?_append hall
    rw [h] at hv
    cases hv

theorem length_of_run? (h : run? step? s before = some (said, t)) : said.length = before.length :=
  run?_induction (P := fun es os _ => os.length = es.length) rfl
    (fun es os _ e o _ _ ih _ => by rw [List.length_append, List.length_append, ih]; rfl) h

theorem insertIdx_length_append (said more : List O) (o : O) :
    (said ++ more).insertIdx said.length o = said ++ o :: more := by
  induction said with
  | nil => rw [List.nil_append, List.length_nil, List.insertIdx_zero, List.nil_append]
  | cons a said ih => rw [List.cons_append, List.length_cons, List.insertIdx_succ_cons, ih, List.cons_append]

/-- What is silent and leaves the machine as it is can be put in or left out. -/
theorem run?_insert (hsame : ∀ said t, run? step? s before = some (said, t) → step? t e = some (silent, t)) :
    run? step? s (before ++ e :: after) = (run? step? s (before ++ after)).map fun out =>
      (out.1.insertIdx before.length silent, out.2) := by
  cases h : run? step? s before with
  | none => rw [run?_append_eq_none h, run?_append_eq_none h, Option.map_none]
  | some out =>
    obtain ⟨said, t⟩ := out
    have hcons : run? step? t (e :: after) = (run? step? t after).map fun out => (silent :: out.1, out.2) :=
      run?_append_eq (run?_single (hsame said t h)) after
    rw [run?_append_eq h, run?_append_eq h, hcons, Option.map_map, Option.map_map]
    refine congrArg (Option.map · _) (funext fun out => ?_)
    show (said ++ silent :: out.1, out.2) = ((said ++ out.1).insertIdx before.length silent, out.2)
    rw [← length_of_run? h, insertIdx_length_append]

/-- Of the events to which there is a first answer only the first gets it. Any further one is silent, and all
else in the history is as if it were left out. -/
structure ActsOnce (step? : S → E → Option (O × S)) (s : S) (first? : E → Option O) (silent : O) : Prop where
  first : ∀ before e o said t, (∀ d ∈ before, first? d = none) → first? e = some o →
    run? step? s before = some (said, t) → ∃ u, step? t e = some (o, u)
  again : ∀ before e after, (∃ d ∈ before, (first? d).isSome) → (first? e).isSome →
    run? step? s (before ++ e :: after) = (run? step? s (before ++ after)).map fun out =>
      (out.1.insertIdx before.length silent, out.2)

/-- An event acts once if it takes the machine from states where it gets its answer to states where it does
nothing, and nothing leads back from these. -/
theorem ActsOnce.of_states (Calm Done : S → Prop) (start : Calm s)
    (hcalm : ∀ t e o u, Calm t → first? e = none → step? t e = some (o, u) → Calm u)
    (hfirst : ∀ t e o, Calm t → first? e = some o → ∃ u, step? t e = some (o, u) ∧ Done u)
    (hdone : ∀ t e o u, Done t → step? t e = some (o, u) → Done u)
    (hagain : ∀ t e, Done t → (first? e).isSome → step? t e = some (silent, t)) :
    ActsOnce step? s first? silent := by
  have hrun {before said t} (h : run? step? s before = some (said, t)) :
      ((∀ d ∈ before, first? d = none) → Calm t) ∧ ((∃ d ∈ before, (first? d).isSome) → Done t) := by
    refine run?_induction (P := fun before _ t => ((∀ d ∈ before, first? d = none) → Calm t) ∧
      ((∃ d ∈ before, (first? d).isSome) → Done t)) ⟨fun _ => start, fun ⟨_, hd, _⟩ => by cases hd⟩ ?_ h
    rintro es os t e o u - ⟨ihcalm, ihdone⟩ hstep
    refine ⟨fun hall => ?_, fun hsome => ?_⟩
    · exact hcalm t e o u (ihcalm fun d hd => hall d (List.mem_append_left _ hd))
        (hall e (List.mem_append_right _ List.mem_cons_self)) hstep
    · by_cases hearlier : ∃ d ∈ es, (first? d).isSome
      · exact hdone t e o u (ihdone hearlier) hstep
      · have hnone : ∀ d ∈ es, first? d = none := fun d hd =>
          Option.not_isSome_iff_eq_none.mp fun h => hearlier ⟨d, hd, h⟩
        obtain ⟨d, hd, hfirstd⟩ := hsome
        obtain hd | hd := List.mem_append.mp hd
        · exact absurd ⟨d, hd, hfirstd⟩ hearlier
        · obtain rfl := List.mem_singleton.mp hd
          obtain ⟨o', ho'⟩ := Option.isSome_iff_exists.mp hfirstd
          obtain ⟨u', hu', hdone'⟩ := hfirst t d o' (ihcalm hnone) ho'
          rw [hstep] at hu'
          cases hu'
          exact hdone'
  refine ⟨fun before e o said t hnone he h => ?_, fun before e after hsome he => ?_⟩
  · obtain ⟨u, hu, -⟩ := hfirst t e o ((hrun h).1 hnone) he
    exact ⟨u, hu⟩
  · exact run?_insert fun said t h => hagain t e ((hrun h).2 hsome) he

end History

theorem StopFlag.raise_of_raised {f : StopFlag} (h : f.raised = true) : f.raise = (false, f) := by
  obtain ⟨raised, abandoned, listeners⟩ := f
  cases h
  rfl

/-! ## The server -/

/-- What an interrupt logs if it is the first. -/
def ServerEvent.stopping? : ServerEvent → Option Observed
  | .interrupt cause => some (.said [Server.stopping cause])
  | _ => none

namespace Server

theorem stopping_of_isSome {e : ServerEvent} (h : e.stopping?.isSome) : ∃ cause, e = .interrupt cause := by
  cases e with
  | interrupt cause => exact ⟨cause, rfl⟩
  | _ => cases h

theorem interrupts_once (options : ServerOptions) :
    History.ActsOnce step? (new options) ServerEvent.stopping? .none := by
  refine .of_states (fun s => s.stop.raised = false) (fun s => s.stop.raised = true) rfl
    (fun s e o s' hcalm he h => ?_) (fun s e o hcalm he => ?_)
    (fun s e o s' hdone h => (steps_of_step? h).stop_raised hdone) (fun s e hdone he => ?_)
  · cases steps_of_step? h with
    | call | pass => exact hcalm
    | interrupt => cases he
    | run i r m o r' s' hr hm =>
      rw [hm.stop_eq]
      exact hcalm
  · obtain ⟨cause, rfl⟩ := stopping_of_isSome (Option.isSome_of_eq_some he)
    cases he
    refine ⟨{ s with stop := s.stop.raise.2 }, ?_, StopFlag.raise_raised s.stop⟩
    rw [step?, interrupt, StopFlag.raise, hcalm]
    rfl
  · obtain ⟨cause, rfl⟩ := stopping_of_isSome he
    rw [step?, interrupt, StopFlag.raise_of_raised hdone]
    rfl

end Server

/-! ## A watcher -/

/-- What an interrupt of a watcher logs if it is the first. -/
def WatchEvent.stopping? (n : Nat) : WatchEvent → Option (List LogRecord)
  | .step (.interrupt k cause) => if k = n then some [Watchers.stopping cause] else none
  | _ => none

namespace Watchers

variable {w w' : Watchers} {n : Nat} {e : WatchEvent} {said : List LogRecord} {f : StopFlag}

theorem stopping_of_isSome (h : (e.stopping? n).isSome) : ∃ cause, e = .step (.interrupt n cause) := by
  unfold WatchEvent.stopping? at h
  split at h
  · next k cause =>
    split at h
    · next hk => exact ⟨cause, hk ▸ rfl⟩
    · cases h
  · cases h

theorem interrupt_eq (hf : w.stops[n]? = some f) (cause : Option Failure) : w.interrupt n cause =
    (if f.raised then [] else [stopping cause], { w with stops := w.stops.set n f.raise.2 }) := by
  rw [interrupt, hf]
  cases h : f.raised <;> simp [StopFlag.raise, h]

/-- The flag of a watcher is raised by its interrupts, and by nothing else that happens. -/
theorem stop_of_happen (h : w.happen? e = some (said, w')) (hf : w.stops[n]? = some f) :
    w'.stops[n]? = some (if (e.stopping? n).isSome then f.raise.2 else f) := by
  obtain ⟨hlt, -⟩ := List.getElem?_eq_some_iff.mp hf
  cases e with
  | move i m =>
    obtain ⟨r, r', -, -, rfl⟩ := move?_eq_some_iff.mp h
    exact hf
  | step s =>
    obtain rfl := congrArg Prod.snd (Option.some.inj h)
    cases s with
    | add => exact (List.getElem?_append_left hlt).trans hf
    | run => exact hf
    | raise signals =>
      have hstep : (w.step (.raise signals)).2.2 = { w with runs := w.runs.map (hearAll signals) } :=
        raiseAll_snd w signals
      rw [hstep]
      exact hf
    | interrupt k cause =>
      by_cases hk : k = n
      · subst k
        have hstep : (w.step (.interrupt n cause)).2.2 = { w with stops := w.stops.set n f.raise.2 } :=
          congrArg Prod.snd (interrupt_eq hf cause)
        rw [hstep, WatchEvent.stopping?, if_pos rfl]
        exact List.getElem?_set_self hlt
      · have hnone : WatchEvent.stopping? n (.step (.interrupt k cause)) = none := if_neg hk
        rw [hnone]
        show (w.interrupt k cause).2.stops[n]? = some f
        unfold interrupt
        split
        · exact hf
        · exact (List.getElem?_set_ne hk).trans hf

/-- From when a watcher is added. -/
theorem interrupts_once (w : Watchers) :
    History.ActsOnce happen? (w.step .add).2.2 (WatchEvent.stopping? w.stops.length) [] := by
  refine .of_states (fun v => ∃ f, v.stops[w.stops.length]? = some f ∧ f.raised = false)
    (fun v => ∃ f, v.stops[w.stops.length]? = some f ∧ f.raised = true)
    ⟨.new, List.getElem?_concat_length, rfl⟩ ?_ ?_ ?_ ?_
  · rintro v e said v' ⟨f, hf, hraised⟩ he h
    refine ⟨f, ?_, hraised⟩
    rw [stop_of_happen h hf, he]
    rfl
  · rintro v e said ⟨f, hf, hraised⟩ he
    obtain ⟨cause, rfl⟩ := stopping_of_isSome (Option.isSome_of_eq_some he)
    have hsaid : said = [stopping cause] := Option.some.inj (he.symm.trans (if_pos rfl))
    have hstep : v.happen? (.step (.interrupt w.stops.length cause)) =
        some (said, { v with stops := v.stops.set w.stops.length f.raise.2 }) := by
      rw [hsaid]
      refine congrArg some ((interrupt_eq hf cause).trans ?_)
      rw [hraised]
      rfl
    refine ⟨_, hstep, f.raise.2, ?_, StopFlag.raise_raised f⟩
    rw [stop_of_happen hstep hf, he]
    rfl
  · rintro v e said v' ⟨f, hf, hraised⟩ h
    refine ⟨_, stop_of_happen h hf, ?_⟩
    split
    · exact StopFlag.raise_raised f
    · exact hraised
  · rintro v e ⟨f, hf, hraised⟩ he
    obtain ⟨cause, rfl⟩ := stopping_of_isSome he
    obtain ⟨hlt, hget⟩ := List.getElem?_eq_some_iff.mp hf
    refine congrArg some ((interrupt_eq hf cause).trans ?_)
    rw [hraised, StopFlag.raise_of_raised hraised, ← hget, List.set_getElem_self]
    rfl

end Watchers

/-! ## Every history -/

namespace StopFlag

/-- In every history of a flag the first raise is told that it was the first and no other one is, and the flag
is raised from then on. Waiting is over for a listener exactly when the flag was raised or abandoned before,
and it makes no difference when the listener was made, of which it is a copy, and how its waits have gone. Of
all interrupts of a server, and of all interrupts of a watcher since it was added, the first is logged and
the others change nothing. -/
theorem first_raise_acts_alone :
    (∀ before rest, (new.run (before ++ .raise :: rest))[before.length]? =
      some (if .abandon ∈ before then .gone else .truth (.raise ∉ before))) ∧
    (∀ before rest, (new.run (before ++ .isRaised :: rest))[before.length]? =
      some (if .abandon ∈ before then .gone else .truth (.raise ∈ before))) ∧
    (∀ before rest listener, (new.run (before ++ .poll listener :: rest))[before.length]? =
      some (.truth (.raise ∈ before ∨ .abandon ∈ before))) ∧
    (∀ events, new.hasMade events = true → ∃ answers c,
      StopListeners.new.run? events = some (answers, c) ∧
        answers.filterMap id = new.run (events.filterMap ListenerEvent.step?)) ∧
    (∀ options, History.ActsOnce Server.step? (.new options) ServerEvent.stopping? .none) ∧
    ∀ w : Watchers, History.ActsOnce Watchers.happen? (w.step .add).2.2
      (WatchEvent.stopping? w.stops.length) [] :=
  ⟨answer_raise, answer_isRaised, answer_poll, fun _ h => StopListeners.exists_run .new h,
    Server.interrupts_once, Watchers.interrupts_once⟩

/-- A wait sleeps while its listener is copied, and another one was left before. -/
def alarm : List ListenerEvent :=
  [.step .subscribe, .step (.poll 0), .leave 0, .step (.poll 0), .step (.copy 0), .step .raise, .step (.poll 0),
    .step .subscribe, .step .raise, .step (.poll 2), .step .abandon, .step (.poll 1)]

theorem first_raise_acts_alone_in_alarm : ∃ answers c, StopListeners.new.run? alarm = some (answers, c) ∧
    answers.filterMap id = [.listener 0, .truth false, .truth false, .listener 1, .truth true, .truth true,
      .listener 2, .truth false, .truth true, .nothing, .truth true] := by
  obtain ⟨answers, c, hrun, hsame⟩ := first_raise_acts_alone.2.2.2.1 alarm (by decide)
  exact ⟨answers, c, hrun, hsame.trans (by decide)⟩

end StopFlag

end MetricsGateway
