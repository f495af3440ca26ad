import MetricsGateway.Proofs.Group.Arrivals

/-!
The interrupts of a group. The first completion that it takes makes it interrupt every actor, and it
takes no other one before it has done so.
-/

namespace MetricsGateway

namespace Group

def Act.isInterrupt : Act → Bool
  | .interrupt _ _ => true
  | _ => false

theorem filter_isInterrupt_take_first {g : Group} (h : g.taken = []) (c : Completion) :
    (g.take c).1.filter Act.isInterrupt = g.fanOut c.failure := by
  have hall : ∀ act ∈ g.fanOut c.failure, act.isInterrupt = true := by
    intro act ha
    obtain ⟨i, -, rfl⟩ := List.mem_map.mp ha
    rfl
  simp only [take, h, List.isEmpty_nil, if_true]
  exact List.filter_eq_self.mpr hall

theorem filter_isInterrupt_take_later {g : Group} (h : g.taken ≠ []) (c : Completion) :
    (g.take c).1.filter Act.isInterrupt = [] := by
  simp [take, h, Act.isInterrupt]

end Group

namespace GroupRun

variable {names : List String} {story : List Happening} {g g' : GroupRun} {m : GroupMove}
  {what : Happening}

/-- The interrupts that are still due. -/
def pending (g : GroupRun) : List Happening :=
  (g.due.filter Group.Act.isInterrupt).map .done

/-- What follows from the completions that a group of so many actors takes: interrupts for all actors
after the first one, with its failure as the cause, and none after any other. -/
def agenda (actors : Nat) : List Completion → List Happening
  | [] => []
  | c :: later =>
    .taken c :: (List.range actors).map (fun i => .done (.interrupt i c.failure)) ++
      later.map .taken

theorem agenda_concat (actors : Nat) {taken : List Completion} (h : taken ≠ []) (c : Completion) :
    agenda actors (taken ++ [c]) = agenda actors taken ++ [.taken c] := by
  cases taken with
  | nil => exact absurd rfl h
  | cons d later => simp [agenda]

theorem milestones_append (past later : List Happening) :
    milestones (past ++ later) = milestones past ++ milestones later :=
  List.filter_append ..

/-- The interrupts so far and those that are due make up the agenda, and after the second completion
none is due. -/
structure FanOut (names : List String) (story : List Happening) (g : GroupRun) : Prop where
  milestones_eq : milestones story ++ g.pending = agenda names.length g.group.taken
  settled : 2 ≤ g.group.taken.length → g.pending = []

namespace FanOut

theorem new (names : List String) : FanOut names [] (GroupRun.new names) := by
  constructor <;> simp [GroupRun.new, Group.new, milestones, pending, agenda]

theorem take_step (f : FanOut names story g) (hn : g.names = names) {c : Completion}
    (idle : g.due = []) {rest : List Completion} :
    FanOut names (story ++ [.taken c]) ⟨(g.group.take c).2, g.tasks, rest, (g.group.take c).1⟩ := by
  have h := f.milestones_eq
  have hp : g.pending = [] := by simp [pending, idle]
  rw [hp, List.append_nil] at h
  have hc : milestones [.taken c] = [.taken c] := rfl
  by_cases ht : g.group.taken = []
  · constructor
    · rw [ht] at h
      simp only [milestones_append, h, hc, pending, Group.filter_isInterrupt_take_first ht,
        Group.taken_take, ht, Group.fanOut, ← hn]
      simp [agenda, GroupRun.names]
    · simp [ht]
  · have hl : pending ⟨(g.group.take c).2, g.tasks, rest, (g.group.take c).1⟩ = [] := by
      simp only [pending, Group.filter_isInterrupt_take_later ht, List.map_nil]
    refine ⟨?_, fun _ => hl⟩
    rw [hl, List.append_nil, milestones_append, h, hc, Group.taken_take]
    exact (agenda_concat _ ht c).symm

theorem act_step (f : FanOut names story g) {act : Group.Act} {rest : List Group.Act}
    (hd : g.due = act :: rest) : FanOut names (story ++ [.done act]) { g with due := rest } := by
  have h := f.milestones_eq
  have hs := f.settled
  cases act with
  | interrupt i cause =>
    have hp : g.pending = .done (.interrupt i cause) :: pending { g with due := rest } := by
      rw [pending, hd]
      rfl
    have hm : milestones [.done (.interrupt i cause)] = [.done (.interrupt i cause)] := rfl
    refine ⟨?_, fun hl => ?_⟩
    · rw [milestones_append, hm, List.append_assoc, List.singleton_append, ← hp]
      exact h
    · have := hs hl
      rw [hp] at this
      cases this
  | exit | log =>
    have hp : g.pending = pending { g with due := rest } := by
      rw [pending, hd]
      rfl
    rw [hp] at h hs
    refine ⟨?_, hs⟩
    rw [milestones_append]
    simpa [milestones] using h

theorem step (f : FanOut names story g) (hn : g.names = names) (hm : g.Moves m what g') :
    FanOut names (story ++ [what]) g' := by
  cases hm with
  | take c rest hc started idle => exact f.take_step hn idle
  | act act rest hd => exact f.act_step hd
  | _ =>
    refine ⟨?_, f.settled⟩
    change milestones (story ++ [_]) ++ g.pending = agenda names.length g.group.taken
    rw [milestones_append, ← f.milestones_eq]
    simp [milestones]

end FanOut

theorem fanOut_of_run {moves : List GroupMove} (h : (new names).run? moves = some (story, g)) :
    FanOut names story g :=
  History.run?_induction (P := fun _ story g => FanOut names story g) (FanOut.new names)
    (fun _ _ _ _ _ _ hr f hs => f.step (account_of_run hr).names_eq (step?_eq_some_iff.mp hs)) h

/-- Nothing keeps a group from doing what is due. -/
theorem run?_acts (g : GroupRun) :
    g.run? (List.replicate g.due.length .act) = some (g.due.map .done, { g with due := [] }) := by
  obtain ⟨group, tasks, channel, due⟩ := g
  induction due with
  | nil => rfl
  | cons act rest ih =>
    exact History.run?_cons.mpr ⟨_, _, _, step?_eq_some_iff.mpr (.act act rest rfl), ih, rfl⟩

theorem milestones_due (g : GroupRun) : milestones (g.due.map .done) = g.pending := by
  simp only [milestones, pending, List.filter_map]
  congr 2
  funext act
  cases act <;> rfl

/-- A group without actors makes no move. -/
theorem story_of_no_actors {moves : List GroupMove} (h : (new []).run? moves = some (story, g)) :
    story = [] := by
  refine (History.run?_induction (P := fun _ story g => story = [] ∧ g = new []) ⟨rfl, rfl⟩
    (fun _ _ _ _ _ _ _ ih hs => ?_) h).1
  obtain ⟨rfl, rfl⟩ := ih
  cases step?_eq_some_iff.mp hs with
  | start hlt => simp [new, GroupRun.names, Group.new] at hlt
  | finish i how ht => simp [new] at ht
  | report i how ht => simp [new] at ht
  | take c rest hc => simp [new] at hc
  | act a rest hd => simp [new] at hd

/-- Whatever the order in which actors end and completions arrive: before the group takes the first
completion, which is the first that arrived, it interrupts nobody; after it, it interrupts every actor
once, in the order of registration and each with the failure of that completion, before it takes
another one. It can do so at once, without waiting for anybody, and it interrupts nobody later. -/
theorem interrupts_follow_first_arrival {moves : List GroupMove}
    (h : (new names).run? moves = some (story, g)) :
    (names = [] → story = []) ∧
    (takings story = [] → milestones story = []) ∧
    ∀ c later, takings story = c :: later →
      (arrivals story).head? = some c ∧
      (∃ how name, (c.index, how) ∈ endings story ∧ names[c.index]? = some name ∧
        c.failure = how.failure? name) ∧
      milestones story <+: agenda names.length (c :: later) ∧
      (later ≠ [] ∨ g.outcome?.isSome → milestones story = agenda names.length (c :: later)) ∧
      ∃ rest g', g.run? (List.replicate g.due.length .act) = some (rest, g') ∧
        milestones (story ++ rest) = agenda names.length (c :: later) := by
  have a := account_of_run h
  have f := fanOut_of_run h
  have hagenda := f.milestones_eq
  refine ⟨?_, fun ht => ?_, fun c later ht => ?_⟩
  · rintro rfl
    exact story_of_no_actors h
  · rw [← a.taken_eq, ht] at hagenda
    exact (List.append_eq_nil_iff.mp hagenda).1
  · have hc : (arrivals story).head? = some c := by
      rw [a.arrived_eq, arrived, ← a.taken_eq, ht]
      rfl
    rw [← a.taken_eq, ht] at hagenda
    refine ⟨hc, ?_, ⟨_, hagenda⟩, fun hend => ?_, _, _, run?_acts g, ?_⟩
    · obtain ⟨how, he, hf⟩ := a.arrival c (List.mem_of_mem_head? hc)
      have hi := List.mem_range.mp (a.endings_subset (List.mem_map.mpr ⟨_, he, rfl⟩))
      have hn : names[c.index]? = some names[c.index] := List.getElem?_eq_getElem hi
      rw [hn, Option.getD_some] at hf
      exact ⟨how, _, he, hn, hf⟩
    · have hp : g.pending = [] := by
        obtain hl | ho := hend
        · refine f.settled ?_
          rw [← a.taken_eq, ht, List.length_cons]
          exact Nat.succ_le_succ (List.length_pos_iff.mpr hl)
        · obtain ⟨o, ho⟩ := Option.isSome_iff_exists.mp ho
          simp [pending, (outcome?_eq_some_iff.mp ho).2.1]
      rwa [hp, List.append_nil] at hagenda
    · rw [milestones_append, milestones_due]
      exact hagenda

/-- Moves of a group of two actors that have both failed before the group takes a completion. -/
def doubleFailure : List GroupMove :=
  [.start, .start, .finish 0 .panicked, .finish 1 (.failed .serverClosed), .report 1, .report 0,
    .take, .act, .act, .act, .act, .take]

theorem interrupts_of_doubleFailure :
    ∃ story g, (new ["a", "b"]).run? doubleFailure = some (story, g) ∧
      milestones story =
        [.taken ⟨1, some .serverClosed⟩, .done (.interrupt 0 (some .serverClosed)),
          .done (.interrupt 1 (some .serverClosed)), .taken ⟨0, some (.panicked "a")⟩] := by
  obtain ⟨story, g, h, ht⟩ : ∃ story g, (new ["a", "b"]).run? doubleFailure = some (story, g) ∧
      takings story = [⟨1, some .serverClosed⟩, ⟨0, some (.panicked "a")⟩] := ⟨_, _, rfl, rfl⟩
  obtain ⟨-, -, hfirst⟩ := interrupts_follow_first_arrival h
  obtain ⟨-, -, -, hagenda, -⟩ := hfirst _ _ ht
  exact ⟨story, g, h, hagenda (.inl (by simp))⟩

end GroupRun

end MetricsGateway
