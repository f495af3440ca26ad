import MetricsGateway.Proofs.Server.Moves

/-!
Connections that a server accepts after an interrupt. Main statement: only runs that were on their way to
accept do so, each until it stops, and whenever one of them accepts it could have stopped instead. Runs that
stop as soon as they can accept nothing any more.
-/

namespace MetricsGateway

/-- Can the run still get to accept a connection when no further run may begin? -/
def ServerRun.mayAccept : ServerRun → Bool
  | .binding | .accepting _ | .pausing _ _ => true
  | _ => false

theorem ServerRun.mayAccept_pass {r : ServerRun} {nanos : Nat} : (r.pass nanos).mayAccept = r.mayAccept := by
  cases r <;> rfl

def ServerEvent.isAccept : ServerEvent → Bool
  | .run _ (.accept _ _) => true
  | _ => false

namespace Server

variable {s s' t u : Server} {r r' : ServerRun} {m : RunMove} {o : Observed} {options : ServerOptions}
  {before past after rest : List ServerEvent} {said answers : List Observed} {e : ServerEvent} {i client : Nat}
  {peer : String} {cause : Option Failure}

/-! ## Steps after an interrupt -/

theorem Moves.mayAccept (hm : s.Moves r m o r' s') (hstop : s.stop.raised = true)
    (h : r'.mayAccept = true) : r.mayAccept = true ∧ m ≠ .stop := by
  cases hm with
  | begin _ hs =>
    rw [hstop] at hs
    cases hs
  | listen | acquire | accept | retry | collect | resume | finishAccepting | finishPausing =>
    exact ⟨rfl, nofun⟩
  | _ => cases h

/-- A run that may accept could accept before, and this step has not stopped it. -/
theorem Steps.mayAccept (hs : s.Steps e o s') (hstop : s.stop.raised = true)
    (hr' : s'.runs[i]? = some r') (h : r'.mayAccept = true) :
    ∃ r, s.runs[i]? = some r ∧ r.mayAccept = true ∧ e ≠ .run i .stop := by
  cases hs with
  | call =>
    obtain hr | ⟨-, rfl⟩ := getElem?_called hr'
    · exact ⟨r', hr, h, nofun⟩
    · cases h
  | interrupt cause => exact ⟨r', hr', h, nofun⟩
  | pass nanos =>
    obtain ⟨r, hr, rfl⟩ := getElem?_passed hr'
    exact ⟨r, hr, ServerRun.mayAccept_pass ▸ h, nofun⟩
  | run j r m o q s' hr hm =>
    obtain ⟨rfl, rfl⟩ | ⟨hij, hr'⟩ := getElem?_moved hr'
    · obtain ⟨hmay, hne⟩ := hm.mayAccept hstop h
      refine ⟨r, hr, hmay, fun he => hne ?_⟩
      cases he
      rfl
    · refine ⟨r', hr', h, fun he => hij ?_⟩
      cases he
      rfl

theorem Moves.opened_eq (hm : s.Moves r m o r' s') :
    s'.opened = s.opened + if (ServerEvent.run i m).isAccept then 1 else 0 := by
  cases hm <;> rfl

theorem Steps.opened_eq (hs : s.Steps e o s') :
    s'.opened = s.opened + if e.isAccept then 1 else 0 := by
  cases hs with
  | call | interrupt | pass => rfl
  | run i r m o r' s' hr hm => exact hm.opened_eq

/-- A run that accepts while the flag is raised could stop instead. -/
theorem exists_stop_of_accept (h : s.step? (.run i (.accept client peer)) = some (o, s'))
    (hstop : s.stop.raised = true) : ∃ r, s.runs[i]? = some r ∧ r.mayAccept = true ∧
      ∃ o s', s.step? (.run i .stop) = some (o, s') ∧ s'.state = .draining := by
  cases steps_of_step? h with
  | run i r m o r' s' hr hm =>
    cases hm with
    | accept v =>
      have hdrain : s.move? (.accepting v) .stop = some (s.drain v) := if_pos hstop
      exact ⟨.accepting v, hr, rfl, _, _, step?_run hr hdrain, rfl⟩

/-! ## Histories after an interrupt -/

theorem opened_of_run (h : History.run? step? t after = some (said, s)) :
    s.opened = t.opened + after.countP (·.isAccept) := by
  refine History.run?_induction (P := fun after _ s => s.opened = t.opened + after.countP (·.isAccept))
    rfl (fun after said s e o s' _ ih hs => ?_) h
  have hopened : s'.opened = s.opened + if e.isAccept then 1 else 0 := (steps_of_step? hs).opened_eq
  rw [hopened, ih, List.countP_append, List.countP_singleton, Nat.add_assoc]

/-- No more connections are opened than there are events, so that their numbers, the largest of which is that
of the last one, stay below `2 ^ 64` in all histories that are shorter than that. -/
theorem opened_le_length (h : History.run? step? (new options) before = some (said, s)) :
    s.opened ≤ before.length := by
  rw [opened_of_run h]
  exact (Nat.zero_add _).symm ▸ List.countP_le_length

/-- The flag stays raised, and a run that may accept could do so all along and was not stopped. -/
theorem mayAccept_of_run (hstop : t.stop.raised = true) (h : History.run? step? t past = some (said, u)) :
    u.stop.raised = true ∧ ∀ (i : Nat) r', u.runs[i]? = some r' → r'.mayAccept = true →
      (∃ r, t.runs[i]? = some r ∧ r.mayAccept = true) ∧ .run i .stop ∉ past := by
  refine History.run?_induction
    (P := fun past _ u => u.stop.raised = true ∧ ∀ (i : Nat) r', u.runs[i]? = some r' → r'.mayAccept = true →
      (∃ r, t.runs[i]? = some r ∧ r.mayAccept = true) ∧ .run i .stop ∉ past)
    ⟨hstop, fun i r hr hmay => ⟨⟨r, hr, hmay⟩, nofun⟩⟩ (fun past said u e o u' _ ih hs => ?_) h
  have hsteps : u.Steps e o u' := steps_of_step? hs
  refine ⟨hsteps.stop_raised ih.1, fun i r' hr' hmay' => ?_⟩
  obtain ⟨r, hr, hmay, hne⟩ := hsteps.mayAccept ih.1 hr' hmay'
  obtain ⟨hfirst, hpast⟩ := ih.2 i r hr hmay
  refine ⟨hfirst, fun hm => ?_⟩
  obtain hm | hm := List.mem_append.mp hm
  · exact hpast hm
  · exact hne (List.mem_singleton.mp hm).symm

/-- One event of a server whose runs stop as soon as they can: none accepts a connection where it could stop. -/
def promptly? (s : Server) : ServerEvent → Option (Observed × Server)
  | .run i (.accept client peer) =>
    if (s.step? (.run i .stop)).isSome then none else s.step? (.run i (.accept client peer))
  | e => s.step? e

theorem step?_of_promptly? (h : s.promptly? e = some (o, s')) : s.step? e = some (o, s') ∧
    ∀ i client peer, e = .run i (.accept client peer) → s.step? (.run i .stop) = none := by
  unfold promptly? at h
  split at h
  · next i client peer =>
    simp only [Option.ite_none_left_eq_some, Bool.not_eq_true, Option.isSome_eq_false_iff,
      Option.isNone_iff_eq_none] at h
    refine ⟨h.2, fun j client' peer' he => ?_⟩
    cases he
    exact h.1
  · next hother => exact ⟨h, fun i client peer he => absurd he (hother i client peer)⟩

theorem isAccept_eq_false (h : s.promptly? e = some (o, s')) (hstop : s.stop.raised = true) :
    e.isAccept = false := by
  obtain ⟨hstep, hnone⟩ := step?_of_promptly? h
  cases e with
  | run i m =>
    cases m with
    | accept client peer =>
      obtain ⟨_, _, _, o, u, hu, _⟩ := exists_stop_of_accept hstep hstop
      rw [hnone i client peer rfl] at hu
      cases hu
    | _ => rfl
  | _ => rfl

theorem promptly_of_run (hstop : t.stop.raised = true)
    (h : History.run? promptly? t after = some (said, s)) :
    s.stop.raised = true ∧ ∀ e ∈ after, e.isAccept = false := by
  refine History.run?_induction
    (P := fun after _ s => s.stop.raised = true ∧ ∀ e ∈ after, e.isAccept = false)
    ⟨hstop, nofun⟩ (fun after said s e o s' _ ih hs => ?_) h
  have hsteps : s.Steps e o s' := steps_of_step? (step?_of_promptly? hs).1
  refine ⟨hsteps.stop_raised ih.1, fun d hd => ?_⟩
  obtain hd | hd := List.mem_append.mp hd
  · exact ih.2 d hd
  · rw [List.mem_singleton.mp hd]
    exact isAccept_eq_false hs ih.1

/-- What happens after an interrupt, whatever is called and interrupted before and after it. Each connection
that is opened is one that a run accepts; the run was on its way to accept when the interrupt came, it has not
stopped since, and it could stop right then instead. Where runs do, no connection is opened. -/
theorem accepts_after_interrupt
    (h : History.run? step? (new options) (before ++ .interrupt cause :: after) = some (said, s)) :
    ∃ answers t, History.run? step? (new options) (before ++ [.interrupt cause]) = some (answers, t) ∧
      s.opened = t.opened + after.countP (·.isAccept) ∧
      (∀ past i client peer rest, after = past ++ .run i (.accept client peer) :: rest →
        (∃ r, t.runs[i]? = some r ∧ r.mayAccept = true) ∧ .run i .stop ∉ past ∧
          ∃ further u o u', History.run? step? t past = some (further, u) ∧
            u.step? (.run i .stop) = some (o, u') ∧ u'.state = .draining) ∧
      ∀ further u, History.run? promptly? t after = some (further, u) →
        u.opened = t.opened ∧ ∀ e ∈ after, e.isAccept = false := by
  rw [List.append_cons] at h
  obtain ⟨answers, t, later, ht, hs, -⟩ := History.exists_of_run?_append h
  have hstop : t.stop.raised = true := by
    obtain ⟨_, v, _, _, hv, _⟩ := History.exists_of_run?_append ht
    obtain ⟨o, w, _, hw, hnil, _⟩ := History.run?_cons.mp hv
    obtain ⟨_, rfl⟩ := History.run?_nil.mp hnil
    cases hw
    exact StopFlag.raise_raised v.stop
  refine ⟨answers, t, ht, opened_of_run hs, ?_, ?_⟩
  · rintro past i client peer rest rfl
    obtain ⟨further, u, _, hu, hrest, _⟩ := History.exists_of_run?_append hs
    obtain ⟨o, w, _, haccept, _, _⟩ := History.run?_cons.mp hrest
    obtain ⟨hraised, hmay⟩ := mayAccept_of_run hstop hu
    obtain ⟨r, hr, hr', o', u', hu', hdrains⟩ := exists_stop_of_accept haccept hraised
    obtain ⟨hfirst, hpast⟩ := hmay i r hr hr'
    exact ⟨hfirst, hpast, further, u, o', u', hu, hu', hdrains⟩
  · intro further u hu
    have hnone : ∀ e ∈ after, e.isAccept = false := (promptly_of_run hstop hu).2
    have hrun : History.run? step? t after = some (further, u) :=
      History.run?_mono (fun _ _ _ h => (step?_of_promptly? h).1) hu
    have hcount : after.countP (·.isAccept) = 0 :=
      List.countP_eq_zero.mpr fun e he => by simp [hnone e he]
    exact ⟨by rw [opened_of_run hrun, hcount, Nat.add_zero], hnone⟩

/-- A run that is interrupted while a client waits to be accepted. -/
def expecting : List ServerEvent :=
  [.call, .run 0 .begin, .run 0 (.bind (.ok "127.0.0.1:9090")), .run 0 .acquire]

theorem accepts_after_interrupt_of_stopping : ∃ said s,
    History.run? step? (new ⟨"127.0.0.1:9090", 1, .fiveSeconds⟩)
        (expecting ++ .interrupt none :: [.interrupt none, .run 0 .stop, .run 0 .drained]) = some (said, s) ∧
      ∃ answers t, History.run? step? (new ⟨"127.0.0.1:9090", 1, .fiveSeconds⟩)
          (expecting ++ [.interrupt none]) = some (answers, t) ∧ s.opened = t.opened := by
  obtain ⟨said, s, h⟩ : ∃ said s, History.run? step? (new ⟨"127.0.0.1:9090", 1, .fiveSeconds⟩)
      (expecting ++ .interrupt none :: [.interrupt none, .run 0 .stop, .run 0 .drained]) = some (said, s) :=
    ⟨_, _, rfl⟩
  obtain ⟨answers, t, ht, hopened, -, -⟩ := accepts_after_interrupt h
  exact ⟨said, s, h, answers, t, ht, hopened⟩

/-- The client that waits can be accepted after the interrupt has returned. -/
theorem accepts_waiting_after_interrupt : ∃ answers t said s,
    History.run? step? (new ⟨"127.0.0.1:9090", 1, .fiveSeconds⟩) (expecting ++ [.interrupt none]) =
        some (answers, t) ∧ t.opened = 0 ∧
      History.run? step? (new ⟨"127.0.0.1:9090", 1, .fiveSeconds⟩)
        (expecting ++ .interrupt none :: [.run 0 (.accept 7 "127.0.0.1:40000")]) = some (said, s) ∧
      s.opened = 1 ∧ ∃ v, s.runs[0]? = some (.accepting v) ∧ v.isServing 7 = true :=
  ⟨_, _, _, _, rfl, rfl, rfl, rfl, _, rfl, rfl⟩

end Server

end MetricsGateway
