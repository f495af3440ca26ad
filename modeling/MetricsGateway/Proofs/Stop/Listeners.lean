import MetricsGateway.Actor.StopListeners
import MetricsGateway.Proofs.Stop.Flag

/-!
Listeners that remember what they have seen, and the flag that they listen to. Main statement: in every
history whose events name listeners that were made, each step has the answer that the flag alone gives. So it
matters neither when a listener was made nor of which it is a copy, nor which waits it began, slept in, left or
finished before.
-/

namespace MetricsGateway

/-- The listener that an event is about, if it is about one. -/
def ListenerEvent.listener? : ListenerEvent → Option Nat
  | step (.copy i) | step (.poll i) | leave i => some i
  | _ => none

namespace StopFlag

/-- The flag knows nothing of the waits of its listeners. -/
def afterEvent (f : StopFlag) : ListenerEvent → StopFlag
  | .step s => (f.step s).2
  | .leave _ => f

/-- Is each event about a listener that was made before, if it is about one? -/
def hasMade (f : StopFlag) : List ListenerEvent → Bool
  | [] => true
  | e :: rest => e.listener?.all (· < f.listeners) && (f.afterEvent e).hasMade rest

end StopFlag

namespace StopListeners

open StopFlag (Step Answer)

variable {c c' : StopListeners} {f : StopFlag} {l : StopListener} {s : Step} {e : ListenerEvent}
  {o : Option Answer} {i : Nat}

/-- A wait that sleeps misses nothing: it has seen all changes and has to go on. One that was woken has a
reason to look again. -/
inductive Alert (c : StopListeners) : StopListener → Prop where
  | idle (seen : Nat) : Alert c ⟨seen, .none⟩
  | asleep (hr : c.raised = false) (ha : c.abandoned = false) : Alert c ⟨c.changes, .asleep⟩
  | woken (seen : Nat) (h : c.abandoned = true ∨ seen < c.changes) : Alert c ⟨seen, .woken⟩

namespace Alert

theorem looked (c : StopListeners) : c.Alert c.look.2 := by
  unfold look
  split
  · exact .idle c.changes
  · next h =>
    rw [Bool.or_eq_true, not_or, Bool.not_eq_true, Bool.not_eq_true] at h
    exact .asleep h.1 h.2

/-- However a wait has gone so far, it goes on as one that begins now. -/
theorem poll_eq_look (h : c.Alert l) : c.poll l = c.look := by
  cases h with
  | idle seen => rfl
  | asleep hr ha => rw [poll, look, hr, ha]; rfl
  | woken seen h =>
    rw [poll, if_pos]
    rw [Bool.or_eq_true, decide_eq_true_eq]
    exact h.symm.imp_left Nat.ne_of_lt

theorem raise (h : c.Alert l) (ha : c.abandoned = false) :
    Alert { c with raised := true, changes := c.changes + 1 } l.wake := by
  cases h with
  | idle seen => exact .idle seen
  | asleep => exact .woken c.changes (.inr (Nat.lt_succ_self _))
  | woken seen h =>
    refine .woken seen (.inr ?_)
    obtain h | h := h
    · rw [ha] at h
      cases h
    · exact Nat.lt_succ_of_lt h

theorem abandon (h : c.Alert l) : Alert { c with abandoned := true } l.wake := by
  cases h with
  | idle seen => exact .idle seen
  | asleep => exact .woken c.changes (.inl rfl)
  | woken seen => exact .woken seen (.inl rfl)

/-- Which listeners there are has no part in it. -/
theorem with_listeners (h : c.Alert l) (listeners : List StopListener) :
    Alert { c with listeners } l := by
  cases h with
  | idle seen => exact .idle seen
  | asleep hr ha => exact .asleep hr ha
  | woken seen h => exact .woken seen h

end Alert

/-- The flag is what its listeners know of it. -/
structure Agrees (c : StopListeners) (f : StopFlag) : Prop where
  raised : c.raised = f.raised
  abandoned : c.abandoned = f.abandoned
  made : c.listeners.length = f.listeners
  alert : ∀ l ∈ c.listeners, c.Alert l

namespace Agrees

theorem new : Agrees new .new where
  raised := rfl
  abandoned := rfl
  made := rfl
  alert := fun _ h => by cases h

theorem look_fst (a : c.Agrees f) : c.look.1 = f.released := by
  rw [look, StopFlag.released, a.raised, a.abandoned]
  cases f.raised || f.abandoned <;> rfl

theorem set (a : c.Agrees f) (h : c.Alert l) (i : Nat) :
    Agrees { c with listeners := c.listeners.set i l } f where
  raised := a.raised
  abandoned := a.abandoned
  made := List.length_set.trans a.made
  alert := fun k hk => by
    obtain hk | rfl := List.mem_or_eq_of_mem_set hk
    · exact (a.alert k hk).with_listeners _
    · exact h.with_listeners _

theorem add (a : c.Agrees f) (seen : Nat) :
    (c.add seen).1 = .listener f.subscribe.1 ∧ (c.add seen).2.Agrees f.subscribe.2 := by
  refine ⟨congrArg Answer.listener a.made, a.raised, a.abandoned, ?_, fun k hk => ?_⟩
  · exact List.length_append.trans (congrArg (· + 1) a.made)
  · obtain hk | hk := List.mem_append.mp hk
    · exact (a.alert k hk).with_listeners _
    · obtain rfl := List.mem_singleton.mp hk
      exact .idle seen

theorem raise (a : c.Agrees f) (ha : f.abandoned = false) :
    c.raise.1 = f.raise.1 ∧ c.raise.2.Agrees f.raise.2 := by
  rw [StopListeners.raise]
  split
  · next h =>
    have hf : f.raised = true := a.raised ▸ h
    exact ⟨congrArg (! ·) hf.symm, h, a.abandoned, a.made, a.alert⟩
  · next h =>
    have hf : f.raised = false := a.raised ▸ Bool.eq_false_iff.mpr h
    refine ⟨congrArg (! ·) hf.symm, rfl, a.abandoned, (List.length_map _).trans a.made, fun k hk => ?_⟩
    obtain ⟨l, hl, rfl⟩ := List.mem_map.mp hk
    exact ((a.alert l hl).raise (a.abandoned.trans ha)).with_listeners _

theorem abandon (a : c.Agrees f) : c.abandon.Agrees f.abandon := by
  refine ⟨a.raised, rfl, (List.length_map _).trans a.made, fun k hk => ?_⟩
  obtain ⟨l, hl, rfl⟩ := List.mem_map.mp hk
  exact (a.alert l hl).abandon.with_listeners _

theorem gone (ha : c.abandoned = true) (hs : s.needsFlag = true) :
    c.step? (.step s) = some (some .gone, c) := by
  cases s with
  | raise | subscribe => exact if_pos ha
  | isRaised => rw [StopListeners.step?, if_pos ha]
  | _ => cases hs

/-- A step answers what the flag answers. -/
theorem step (a : c.Agrees f) (h : c.step? (.step s) = some (o, c')) :
    o = some (f.step s).1 ∧ c'.Agrees (f.step s).2 := by
  by_cases hgone : f.abandoned = true ∧ s.needsFlag = true
  · obtain ⟨ha, hs⟩ := hgone
    rw [gone (a.abandoned.trans ha) hs] at h
    cases h
    rw [StopFlag.step_eq_gone ha hs]
    exact ⟨rfl, a⟩
  · have hf (hs : s.needsFlag = true) : f.abandoned = false := Bool.eq_false_iff.mpr fun ha => hgone ⟨ha, hs⟩
    have hc (hs : s.needsFlag = true) : ¬c.abandoned = true :=
      Bool.eq_false_iff.mp (a.abandoned.trans (hf hs))
    cases s with
    | raise =>
      rw [StopListeners.step?, if_neg (hc rfl)] at h
      cases h
      obtain ⟨hfirst, hnext⟩ := a.raise (hf rfl)
      rw [StopFlag.step_raise (hf rfl)]
      exact ⟨congrArg (some ∘ Answer.truth) hfirst, hnext⟩
    | isRaised =>
      rw [StopListeners.step?, if_neg (hc rfl)] at h
      cases h
      rw [StopFlag.step_isRaised (hf rfl), a.raised]
      exact ⟨rfl, a⟩
    | subscribe =>
      rw [StopListeners.step?, if_neg (hc rfl)] at h
      cases h
      obtain ⟨hmade, hnext⟩ := a.add c.changes
      rw [StopFlag.step_subscribe (hf rfl)]
      exact ⟨congrArg some hmade, hnext⟩
    | copy i =>
      obtain ⟨l, -, heq⟩ := Option.bind_eq_some_iff.mp h
      cases heq
      obtain ⟨hmade, hnext⟩ := a.add l.seen
      exact ⟨congrArg some hmade, hnext⟩
    | poll i =>
      obtain ⟨l, hl, heq⟩ := Option.bind_eq_some_iff.mp h
      have hlook : c.poll l = c.look := (a.alert l (List.mem_of_getElem? hl)).poll_eq_look
      rw [hlook] at heq
      cases heq
      exact ⟨congrArg (some ∘ Answer.truth) a.look_fst, a.set (.looked c) i⟩
    | abandon =>
      cases h
      exact ⟨rfl, a.abandon⟩

theorem leave (a : c.Agrees f) (h : c.step? (.leave i) = some (o, c')) : o = none ∧ c'.Agrees f := by
  obtain ⟨l, -, heq⟩ := Option.bind_eq_some_iff.mp h
  cases heq
  exact ⟨rfl, a.set (.idle l.seen) i⟩

end Agrees

theorem exists_step (h : ∀ i, e.listener? = some i → i < c.listeners.length) :
    ∃ o c', c.step? e = some (o, c') := by
  have hget {i : Nat} (hi : e.listener? = some i) : ∃ l, c.listeners[i]? = some l :=
    ⟨_, List.getElem?_eq_getElem (h i hi)⟩
  cases e with
  | leave i =>
    obtain ⟨l, hl⟩ := hget rfl
    exact ⟨_, _, by rw [step?, hl]; rfl⟩
  | step s =>
    cases s with
    | copy i | poll i =>
      obtain ⟨l, hl⟩ := hget rfl
      exact ⟨_, _, by rw [step?, hl]; rfl⟩
    | isRaised | abandon => exact ⟨_, _, rfl⟩
    | raise | subscribe =>
      rw [step?]
      split
      · exact ⟨_, _, rfl⟩
      · exact ⟨_, _, rfl⟩

/-- Events about listeners that were made can happen, and the steps among them are answered as by the flag. -/
theorem exists_run {events : List ListenerEvent} (a : c.Agrees f) (h : f.hasMade events = true) :
    ∃ answers c', History.run? step? c events = some (answers, c') ∧
      answers.filterMap id = f.run (events.filterMap ListenerEvent.step?) := by
  induction events generalizing c f with
  | nil => exact ⟨[], c, rfl, rfl⟩
  | cons e events ih =>
    obtain ⟨hmade, hrest⟩ := (Bool.and_eq_true _ _).mp h
    obtain ⟨o, d, hstep⟩ : ∃ o d, c.step? e = some (o, d) := exists_step fun i hi => by
      rw [hi, Option.all_some, decide_eq_true_eq, ← a.made] at hmade
      exact hmade
    cases e with
    | step s =>
      obtain ⟨rfl, hd⟩ := a.step hstep
      obtain ⟨answers, c', hrun, hsame⟩ := ih hd hrest
      exact ⟨_, c', History.run?_cons.mpr ⟨_, d, answers, hstep, hrun, rfl⟩, congrArg _ hsame⟩
    | leave i =>
      obtain ⟨rfl, hd⟩ := a.leave hstep
      obtain ⟨answers, c', hrun, hsame⟩ := ih hd hrest
      exact ⟨_, c', History.run?_cons.mpr ⟨_, d, answers, hstep, hrun, rfl⟩,
        (List.filterMap_cons_none rfl).trans hsame⟩

end StopListeners

end MetricsGateway
