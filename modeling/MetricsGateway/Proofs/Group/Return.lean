import MetricsGateway.Proofs.Group.Arrivals

/-!
The return of a group. Once all actors have ended the group goes on until it returns, and what it
comes to is the completion that arrived first.
-/

namespace MetricsGateway

theorem Group.length_take_le (g : Group) (c : Completion) :
    (g.take c).1.length ≤ g.names.length + 2 := by
  unfold Group.take
  split <;> simp [Group.fanOut]

def RunTask.isEnded : RunTask → Bool
  | .ended _ => true
  | _ => false

/-- Moves of the group and of its tasks, which no actor has a part in. -/
def GroupMove.isOwn : GroupMove → Bool
  | .report _ | .take | .act => true
  | _ => false

namespace GroupRun

variable {names : List String} {story : List Happening} {g g' : GroupRun} {m : GroupMove}
  {what : Happening} {o : Outcome}

/-- All actors have ended. -/
def AllEnded (g : GroupRun) : Prop :=
  ∀ i < g.names.length, ∃ t, g.tasks[i]? = some t ∧ t ≠ .running

/-- A bound on what is still to be done about the actors that have ended: each of them is reported
and taken, and each completion taken calls for an act per actor and two more at most. -/
def work (g : GroupRun) : Nat :=
  (g.names.length + 3) * (2 * g.tasks.countP RunTask.isEnded + g.channel.length) + g.due.length

theorem Moves.names_eq (hm : g.Moves m what g') : g'.names = g.names := by
  cases hm with
  | take => simp [GroupRun.names]
  | _ => rfl

theorem Moves.allEnded (hm : g.Moves m what g') (h : g.AllEnded) : g'.AllEnded := by
  intro i hi
  rw [hm.names_eq] at hi
  obtain ⟨t, ht, hr⟩ := h i hi
  obtain ⟨he, -⟩ | ⟨hn, -⟩ | ⟨how, -, he, -⟩ | ⟨how, -, he, -⟩ := hm.task i
  · exact ⟨t, he ▸ ht, hr⟩
  · rw [hn] at ht
    cases ht
  · exact ⟨_, he, by simp⟩
  · exact ⟨_, he, by simp⟩

theorem countP_report {i : Nat} {how : RunEnd} {tasks : List RunTask}
    (h : tasks[i]? = some (.ended how)) :
    (tasks.set i .reported).countP RunTask.isEnded + 1 = tasks.countP RunTask.isEnded := by
  obtain ⟨hi, ht⟩ := List.getElem?_eq_some_iff.mp h
  have hpos : 0 < tasks.countP RunTask.isEnded :=
    List.countP_pos_iff.mpr ⟨_, List.getElem_mem hi, by rw [ht]; rfl⟩
  rw [List.countP_set hi, ht]
  simp only [RunTask.isEnded, if_true, Bool.false_eq_true, if_false]
  omega

/-- A group that has not returned goes on, unless it waits for an actor: nothing is due, and all the
actors that have ended were reported and taken. -/
theorem Account.progress_or_wait (a : Account names story g) (hlen : g.tasks.length = names.length)
    (ho : g.outcome? = none) :
    (∃ m what g', m.isOwn = true ∧ g.Moves m what g' ∧ g'.work < g.work) ∨
      g.due = [] ∧ g.channel = [] ∧ (∀ (i : Nat) how, g.tasks[i]? ≠ some (.ended how)) ∧
        ∃ i : Nat, g.tasks[i]? = some .running := by
  cases hd : g.due with
  | cons act rest =>
    refine .inl ⟨_, _, _, rfl, .act act rest hd, ?_⟩
    simp [work, GroupRun.names, hd]
  | nil =>
    by_cases hr : ∃ (i : Nat) (how : RunEnd), g.tasks[i]? = some (.ended how)
    · obtain ⟨i, how, ht⟩ := hr
      refine .inl ⟨_, _, _, rfl, .report i how ht (a.room ht), ?_⟩
      have hc := countP_report ht
      have hk : 2 * g.tasks.countP RunTask.isEnded + g.channel.length =
          2 * (g.tasks.set i .reported).countP RunTask.isEnded +
            (g.channel ++ [g.completion i how]).length + 1 := by
        rw [List.length_append, List.length_singleton]
        omega
      simp only [work, GroupRun.names, hk, Nat.mul_succ]
      omega
    · have hret : g.group.returned = false := by
        simpa [outcome?, hd] using ho
      cases hc : g.channel with
      | cons c rest =>
        refine .inl ⟨_, _, _, rfl, .take c rest hc (by rw [hlen, a.names_eq]) hd hret, ?_⟩
        have hl := g.group.length_take_le c
        simp only [work, GroupRun.names, Group.names_take, hc, hd, List.length_cons, List.length_nil,
          ← Nat.add_assoc, Nat.mul_succ]
        omega
      | nil =>
        refine .inr ⟨rfl, rfl, fun i how ht => hr ⟨i, how, ht⟩, ?_⟩
        -- if no actor ran, all would have been reported and taken and the group have returned
        by_contra hrun
        have hsub : List.range names.length ⊆ (arrivals story).map Completion.index := by
          intro i hi
          rw [List.mem_range, ← hlen] at hi
          have ht := List.getElem?_eq_getElem hi
          rw [a.mem_arrivals, ht]
          cases hk : g.tasks[i] with
          | running => exact absurd ⟨i, hk ▸ ht⟩ hrun
          | ended how => exact absurd ⟨i, how, hk ▸ ht⟩ hr
          | reported => rfl
        have hle := (List.nodup_range.subperm hsub).length_le
        rw [List.length_range, List.length_map, a.arrived_eq, arrived, hc, List.append_nil] at hle
        have hn : g.group.names.length = names.length := congrArg _ a.names_eq
        simp only [Group.returned, decide_eq_false_iff_not, hn] at hret
        exact hret hle

theorem Account.progress (a : Account names story g) (he : g.AllEnded) (ho : g.outcome? = none) :
    ∃ m what g', g.Moves m what g' ∧ g'.work < g.work := by
  have hlen : g.tasks.length = names.length := by
    refine Nat.le_antisymm a.tasks_le (Nat.le_of_not_lt fun hlt => ?_)
    obtain ⟨t, ht, -⟩ := he g.tasks.length (by rwa [a.names_eq])
    simp at ht
  obtain ⟨m, what, g', -, hm, hlt⟩ | ⟨-, -, -, i, hi⟩ := a.progress_or_wait hlen ho
  · exact ⟨m, what, g', hm, hlt⟩
  · have hlt := (List.getElem?_eq_some_iff.mp hi).1
    obtain ⟨t, ht, hrun⟩ := he i (by rwa [a.names_eq, ← hlen])
    rw [hi, Option.some.injEq] at ht
    exact absurd ht.symm hrun

/-- Once all actors have ended the group can go on to its return. -/
theorem Account.exists_return (a : Account names story g) (he : g.AllEnded) :
    ∃ more rest g', g.run? more = some (rest, g') ∧ g'.outcome?.isSome := by
  induction hw : g.work using Nat.strongRecOn generalizing story g with
  | ind w ih =>
    cases ho : g.outcome? with
    | some o => exact ⟨[], [], g, History.run?_nil.mpr ⟨rfl, rfl⟩, by simp [ho]⟩
    | none =>
      obtain ⟨m, what, g', hm, hlt⟩ := a.progress he ho
      obtain ⟨more, rest, g'', hr, hs⟩ := ih _ (hw ▸ hlt) (a.step hm) (hm.allEnded he) rfl
      exact ⟨m :: more, what :: rest, g'',
        History.run?_cons.mpr ⟨what, g', rest, step?_eq_some_iff.mpr hm, hr, rfl⟩, hs⟩

theorem Account.allEnded (a : Account names story g)
    (h : ∀ i < names.length, ∃ how, (i, how) ∈ endings story) : g.AllEnded := by
  intro i hi
  rw [a.names_eq] at hi
  obtain ⟨how, ht⟩ | ht := (a.mem_endings i).mp (mem_fst_endings.mpr (h i hi))
  · exact ⟨_, ht, by simp⟩
  · exact ⟨_, ht, by simp⟩

/-- The first completion taken is the first that arrived. -/
theorem Account.outcome_eq (a : Account names story g) {c : Completion} {later : List Completion}
    (h : arrivals story = c :: later) (ht : g.group.taken ≠ []) :
    ∃ how name, (c.index, how) ∈ endings story ∧ names[c.index]? = some name ∧
      g.group.outcome = ⟨some ⟨c.index, name⟩, how.failure? name⟩ := by
  obtain ⟨how, he, hf⟩ := a.arrival c (by simp [h])
  have hi := List.mem_range.mp (a.endings_subset (List.mem_map.mpr ⟨_, he, rfl⟩))
  have hn : names[c.index]? = some names[c.index] := List.getElem?_eq_getElem hi
  refine ⟨how, names[c.index], he, hn, ?_⟩
  rw [hn, Option.getD_some] at hf
  rw [a.arrived_eq, arrived] at h
  cases hg : g.group.taken with
  | nil => exact absurd hg ht
  | cons d rest =>
    rw [hg, List.cons_append, List.cons.injEq] at h
    obtain ⟨rfl, -⟩ := h
    simp only [Group.outcome, hg, Group.id, a.nameOf_eq hn, hf]

/-- What was taken first stays what it is. -/
theorem outcome_of_run {more : List GroupMove} {rest : List Happening}
    (h : g.run? more = some (rest, g')) (ht : g.group.taken ≠ []) :
    g'.group.outcome = g.group.outcome ∧ g'.group.taken ≠ [] := by
  refine History.run?_induction
    (P := fun _ _ t => t.group.outcome = g.group.outcome ∧ t.group.taken ≠ [])
    ⟨rfl, ht⟩ (fun _ _ t _ _ u _ ih hs => ?_) h
  obtain ⟨ho, hne⟩ := ih
  cases step?_eq_some_iff.mp hs with
  | take c =>
    cases hg : t.group.taken with
    | nil => exact absurd hg hne
    | cons d ds =>
      rw [← ho]
      simp [Group.outcome, Group.snd_take, Group.id, Group.nameOf, hg]
  | _ => exact ⟨ho, hne⟩

/-- A group of at least one actor, whatever the order in which its actors end and whatever happens in
between: no completion waits for room in the channel, the group can return once all actors have ended,
and what it has taken first decides the outcome for good. It returns only after all actors have ended;
its outcome is then the actor whose completion arrived first and how that actor ended, and the exits
counted for a name and a result are the actors of that name that ended so, one for each actor. -/
theorem outcome_is_first_arrival {moves : List GroupMove} (hne : names ≠ [])
    (h : (new names).run? moves = some (story, g)) :
    (∀ i how, g.tasks[i]? = some (.ended how) → (g.step? (.report i)).isSome) ∧
    ((∀ i < names.length, ∃ how, (i, how) ∈ endings story) →
      ∃ more rest g', g.run? more = some (rest, g') ∧ g'.outcome?.isSome) ∧
    (takings story ≠ [] → ∀ more rest g', g.run? more = some (rest, g') →
      g'.group.outcome = g.group.outcome) ∧
    ∀ o, g.outcome? = some o →
      ((endings story).map Prod.fst).Perm (List.range names.length) ∧
      (∃ c later how name, arrivals story = c :: later ∧ (c.index, how) ∈ endings story ∧
        names[c.index]? = some name ∧ o = ⟨some ⟨c.index, name⟩, how.failure? name⟩) ∧
      ((acts story).filterMap Group.Act.exit?).length = names.length ∧
      ∀ name success, (Group.metrics (acts story) .empty).count (.actorExits name success) =
        (endings story).countP fun e =>
          names[e.1]? = some name && decide (e.2 = .ok) = success := by
  have a := account_of_run h
  refine ⟨fun i how ht => ?_, fun hall => a.exists_return (a.allEnded hall), fun ht => ?_,
    fun o ho => ⟨a.endings_perm ho, ?_, ?_, a.count_exits ho⟩⟩
  · have hm := Moves.report i how ht (a.room ht)
    rw [step?_eq_some_iff.mpr hm, Option.isSome_some]
  · rw [a.taken_eq] at ht
    exact fun more rest g' hr => (outcome_of_run hr ht).1
  · obtain ⟨ht, hl⟩ := a.taken_eq_arrivals ho
    cases harr : arrivals story with
    | nil =>
      rw [harr, List.length_nil] at hl
      exact absurd (List.length_eq_zero_iff.mp hl.symm) hne
    | cons c later =>
      obtain ⟨how, name, he, hn, hout⟩ := a.outcome_eq harr (by rw [← ht, harr]; simp)
      obtain ⟨-, -, rfl⟩ := outcome?_eq_some_iff.mp ho
      exact ⟨c, later, how, name, rfl, he, hn, hout⟩
  · rw [a.exits_eq ho, List.length_map]
    exact (a.taken_eq_arrivals ho).2

/-- Moves of a group of three actors. The last one ends first, but the one in the middle, which panics
after it, reports before it. -/
def overtaking : List GroupMove :=
  [.start, .start, .start, .finish 2 .ok, .finish 1 .panicked, .report 1, .report 2, .take, .act,
    .act, .act, .finish 0 (.failed .serverClosed), .act, .act, .take, .act, .act, .report 0, .take,
    .act, .act]

theorem outcome_of_overtaking :
    ∃ story g, (new ["a", "b", "a"]).run? overtaking = some (story, g) ∧
      g.outcome? = some ⟨some ⟨1, "b"⟩, some (.panicked "b")⟩ ∧
      ((endings story).map Prod.fst).Perm (List.range 3) ∧
      (Group.metrics (acts story) .empty).count (.actorExits "a" true) = 1 := by
  obtain ⟨story, g, h, ho, he⟩ : ∃ story g, (new ["a", "b", "a"]).run? overtaking = some (story, g) ∧
      g.outcome? = some ⟨some ⟨1, "b"⟩, some (.panicked "b")⟩ ∧
      endings story = [(2, .ok), (1, .panicked), (0, .failed .serverClosed)] :=
    ⟨_, _, rfl, rfl, rfl⟩
  obtain ⟨-, -, -, hret⟩ := outcome_is_first_arrival (by decide) h
  obtain ⟨hall, -, -, hcount⟩ := hret _ ho
  refine ⟨story, g, h, ho, hall, ?_⟩
  rw [hcount, he]
  decide

end GroupRun

end MetricsGateway
