import MetricsGateway.Actor.GroupRun
import Mathlib.Data.List.Nodup

/-!
What the state of a running group tells about its story so far: which actors have ended, which
completions have arrived and were taken, and what was done about them.
-/

namespace MetricsGateway

namespace Group

variable {g : Group} {c : Completion} {cs : List Completion}

theorem snd_take (g : Group) (c : Completion) : (g.take c).2 = { g with taken := g.taken ++ [c] } := by
  unfold take
  split <;> rfl

theorem fst_takeAll_concat (g : Group) (cs : List Completion) (c : Completion) :
    (g.takeAll (cs ++ [c])).1 =
      (g.takeAll cs).1 ++ (Group.take { g with taken := g.taken ++ cs } c).1 := by
  induction cs generalizing g with
  | nil => simp [takeAll]
  | cons d cs ih => simp [takeAll, ih, snd_take]

end Group

namespace GroupRun

variable {names : List String} {story : List Happening} {g g' : GroupRun} {m : GroupMove}
  {what : Happening}

/-- The moves of a group and what they bring about. -/
inductive Moves (g : GroupRun) : GroupMove → Happening → GroupRun → Prop where
  | start (h : g.tasks.length < g.names.length) :
      Moves g .start (.started g.tasks.length) { g with tasks := g.tasks ++ [.running] }
  | finish (i : Nat) (how : RunEnd) (h : g.tasks[i]? = some .running) :
      Moves g (.finish i how) (.ended i how) { g with tasks := g.tasks.set i (.ended how) }
  | report (i : Nat) (how : RunEnd) (h : g.tasks[i]? = some (.ended how))
      (room : g.channel.length < g.capacity) :
      Moves g (.report i) (.arrived (g.completion i how))
        { g with
          tasks := g.tasks.set i .reported
          channel := g.channel ++ [g.completion i how] }
  | take (c : Completion) (rest : List Completion) (h : g.channel = c :: rest)
      (started : g.tasks.length = g.names.length) (idle : g.due = [])
      (more : g.group.returned = false) :
      Moves g .take (.taken c) ⟨(g.group.take c).2, g.tasks, rest, (g.group.take c).1⟩
  | act (a : Group.Act) (rest : List Group.Act) (h : g.due = a :: rest) :
      Moves g .act (.done a) { g with due := rest }

theorem step?_eq_some_iff : g.step? m = some (what, g') ↔ g.Moves m what g' := by
  constructor
  · intro h
    cases m with
    | start =>
      simp only [step?, start?, Option.ite_none_right_eq_some, Option.some.injEq, Prod.mk.injEq] at h
      obtain ⟨hlt, rfl, rfl⟩ := h
      exact .start hlt
    | finish i how =>
      simp only [step?, finish?, Option.ite_none_right_eq_some, Option.some.injEq,
        Prod.mk.injEq] at h
      obtain ⟨ht, rfl, rfl⟩ := h
      exact .finish i how ht
    | report i =>
      simp only [step?, report?] at h
      split at h
      · next how ht =>
        simp only [Option.ite_none_right_eq_some, Option.some.injEq, Prod.mk.injEq] at h
        obtain ⟨room, rfl, rfl⟩ := h
        exact .report i how ht room
      · cases h
    | take =>
      simp only [step?, take?] at h
      split at h
      · cases h
      · next c rest hc =>
        simp only [Option.ite_none_right_eq_some, Bool.and_eq_true, decide_eq_true_eq,
          List.isEmpty_iff, Bool.not_eq_true', Option.some.injEq, Prod.mk.injEq] at h
        obtain ⟨⟨⟨started, idle⟩, more⟩, rfl, rfl⟩ := h
        exact .take c rest hc started idle more
    | act =>
      simp only [step?, act?] at h
      split at h
      · cases h
      · next a rest hd =>
        simp only [Option.some.injEq, Prod.mk.injEq] at h
        obtain ⟨rfl, rfl⟩ := h
        exact .act a rest hd
  · intro h
    cases h with
    | start hlt => simp [step?, start?, hlt]
    | finish i how ht => simp [step?, finish?, ht]
    | report i how ht room => simp [step?, report?, ht, room]
    | take c rest hc started idle more => simp [step?, take?, hc, started, idle, more]
    | act a rest hd => simp [step?, act?, hd]

/-- A task runs once it is started, ends with its actor, and is done when its completion has
arrived. Every other move leaves it alone. -/
theorem Moves.task (hm : g.Moves m what g') (j : Nat) :
    (g'.tasks[j]? = g.tasks[j]? ∧ (∀ how, what ≠ .ended j how) ∧
        ∀ c, what = .arrived c → c.index ≠ j) ∨
      (g.tasks[j]? = none ∧ g'.tasks[j]? = some .running ∧ what = .started j) ∨
      (∃ how, g.tasks[j]? = some .running ∧ g'.tasks[j]? = some (.ended how) ∧
        what = .ended j how) ∨
      ∃ how, g.tasks[j]? = some (.ended how) ∧ g'.tasks[j]? = some .reported ∧
        what = .arrived (g.completion j how) := by
  cases hm with
  | start =>
    obtain hj | rfl | hj := Nat.lt_trichotomy j g.tasks.length
    · exact .inl ⟨List.getElem?_append_left hj, by simp, by simp⟩
    · exact .inr (.inl ⟨by simp, by simp, rfl⟩)
    · refine .inl ⟨?_, by simp, by simp⟩
      have hl : (g.tasks ++ [RunTask.running]).length ≤ j := by
        rw [List.length_append, List.length_singleton]
        omega
      exact (List.getElem?_eq_none hl).trans (List.getElem?_eq_none (Nat.le_of_lt hj)).symm
  | finish i how ht =>
    by_cases hij : i = j
    · subst j
      have hi := (List.getElem?_eq_some_iff.mp ht).1
      exact .inr (.inr (.inl ⟨how, ht, List.getElem?_set_self hi, rfl⟩))
    · exact .inl ⟨List.getElem?_set_ne hij, by simp [hij], by simp⟩
  | report i how ht room =>
    by_cases hij : i = j
    · subst j
      have hi := (List.getElem?_eq_some_iff.mp ht).1
      exact .inr (.inr (.inr ⟨how, ht, List.getElem?_set_self hi, rfl⟩))
    · refine .inl ⟨List.getElem?_set_ne hij, by simp, ?_⟩
      rintro c h
      cases h
      exact hij
  | take | act => exact .inl ⟨rfl, by simp, by simp⟩

theorem mem_endings_concat {j : Nat} {how : RunEnd} :
    (j, how) ∈ endings (story ++ [what]) ↔ (j, how) ∈ endings story ∨ what = .ended j how := by
  cases what <;> simp [endings, eq_comm]

theorem mem_fst_endings {j : Nat} :
    j ∈ (endings story).map Prod.fst ↔ ∃ how, (j, how) ∈ endings story := by
  simp

theorem mem_arrivals_concat {c : Completion} :
    c ∈ arrivals (story ++ [what]) ↔ c ∈ arrivals story ∨ what = .arrived c := by
  cases what <;> simp [arrivals, eq_comm]

theorem mem_index_arrivals {j : Nat} :
    j ∈ (arrivals story).map Completion.index ↔ ∃ c ∈ arrivals story, c.index = j := by
  simp

/-- What has happened to a group with these names and where it stands agree. -/
structure Account (names : List String) (story : List Happening) (g : GroupRun) : Prop where
  names_eq : g.names = names
  taken_eq : takings story = g.group.taken
  arrived_eq : arrivals story = g.arrived
  acts_eq : acts story ++ g.due = ((Group.new names).takeAll g.group.taken).1
  tasks_le : g.tasks.length ≤ names.length
  all_started : g.group.taken ≠ [] → g.tasks.length = names.length
  endings_nodup : ((endings story).map Prod.fst).Nodup
  mem_endings : ∀ i, i ∈ (endings story).map Prod.fst ↔
    (∃ how, g.tasks[i]? = some (.ended how)) ∨ g.tasks[i]? = some .reported
  ended : ∀ i how, g.tasks[i]? = some (.ended how) → (i, how) ∈ endings story
  arrivals_nodup : ((arrivals story).map Completion.index).Nodup
  mem_arrivals : ∀ i, i ∈ (arrivals story).map Completion.index ↔ g.tasks[i]? = some .reported
  arrival : ∀ c ∈ arrivals story, ∃ how, (c.index, how) ∈ endings story ∧
    c.failure = how.failure? ((names[c.index]?).getD "")

namespace Account

theorem new (names : List String) : Account names [] (GroupRun.new names) := by
  constructor <;> simp [GroupRun.new, GroupRun.names, Group.new, takings, arrivals, acts, endings,
    arrived, Group.takeAll]

theorem names_step (a : Account names story g) (hm : g.Moves m what g') : g'.names = names := by
  have h := a.names_eq
  cases hm with
  | take => simpa [GroupRun.names] using h
  | _ => exact h

theorem taken_step (a : Account names story g) (hm : g.Moves m what g') :
    takings (story ++ [what]) = g'.group.taken := by
  have h := a.taken_eq
  cases hm <;> simp_all [takings]

theorem arrived_step (a : Account names story g) (hm : g.Moves m what g') :
    arrivals (story ++ [what]) = g'.arrived := by
  have h := a.arrived_eq
  cases hm <;> simp_all [arrivals, arrived]

theorem acts_step (a : Account names story g) (hm : g.Moves m what g') :
    acts (story ++ [what]) ++ g'.due = ((Group.new names).takeAll g'.group.taken).1 := by
  have h := a.acts_eq
  cases hm with
  | take c rest hc started idle more =>
    have hg : Group.take { Group.new names with taken := g.group.taken } c = g.group.take c := by
      rw [← a.names_eq]
      rfl
    rw [idle, List.append_nil] at h
    simp only [Group.taken_take, Group.fst_takeAll_concat, ← h]
    simpa [acts, Group.new] using congrArg Prod.fst hg.symm
  | act b rest hd => simpa [acts, hd] using h
  | _ => simpa [acts] using h

theorem tasks_step (a : Account names story g) (hm : g.Moves m what g') :
    g'.tasks.length ≤ names.length := by
  have h := a.tasks_le
  cases hm with
  | start hlt =>
    rw [a.names_eq] at hlt
    simpa [Nat.succ_le_iff] using hlt
  | _ => simpa using h

theorem started_step (a : Account names story g) (hm : g.Moves m what g') :
    g'.group.taken ≠ [] → g'.tasks.length = names.length := by
  have h := a.all_started
  cases hm with
  | start hlt =>
    intro ht
    have := h ht
    rw [a.names_eq] at hlt
    omega
  | take c rest hc started => exact fun _ => started.trans (congrArg _ a.names_eq)
  | _ => simpa using h

/-- An actor that still runs has not ended in the story. -/
theorem not_mem_endings (a : Account names story g) {i : Nat}
    (h : g.tasks[i]? = some .running) : i ∉ (endings story).map Prod.fst := by
  rw [a.mem_endings, h]
  simp

theorem endings_nodup_step (a : Account names story g) (hm : g.Moves m what g') :
    ((endings (story ++ [what])).map Prod.fst).Nodup := by
  have h := a.endings_nodup
  cases hm with
  | finish i how ht =>
    have hn := a.not_mem_endings ht
    have he : (endings (story ++ [.ended i how])).map Prod.fst =
        (endings story).map Prod.fst ++ [i] := by simp [endings]
    rw [he]
    exact List.nodup_append'.mpr ⟨h, List.nodup_singleton i, by simpa using hn⟩
  | _ => simpa [endings] using h

theorem mem_endings_step (a : Account names story g) (hm : g.Moves m what g') (j : Nat) :
    j ∈ (endings (story ++ [what])).map Prod.fst ↔
      (∃ how, g'.tasks[j]? = some (.ended how)) ∨ g'.tasks[j]? = some .reported := by
  have h := a.mem_endings j
  simp only [mem_fst_endings, mem_endings_concat, exists_or] at h ⊢
  obtain ⟨ht, hw, -⟩ | ⟨ht, ht', rfl⟩ | ⟨how, ht, ht', rfl⟩ | ⟨how, ht, ht', rfl⟩ := hm.task j
  · simp [ht, h, hw]
  · simp [ht', h, ht]
  · simp [ht']
  · simp [ht', h, ht]

theorem ended_step (a : Account names story g) (hm : g.Moves m what g') (j : Nat) (how : RunEnd)
    (hj : g'.tasks[j]? = some (.ended how)) : (j, how) ∈ endings (story ++ [what]) := by
  rw [mem_endings_concat]
  obtain ⟨ht, -⟩ | ⟨-, ht, -⟩ | ⟨how', -, ht, rfl⟩ | ⟨_, -, ht, -⟩ := hm.task j
  · exact .inl (a.ended j how (ht ▸ hj))
  · simp [ht] at hj
  · simp only [ht, Option.some.injEq, RunTask.ended.injEq] at hj
    exact .inr (by rw [hj])
  · simp [ht] at hj

theorem arrivals_nodup_step (a : Account names story g) (hm : g.Moves m what g') :
    ((arrivals (story ++ [what])).map Completion.index).Nodup := by
  have h := a.arrivals_nodup
  cases hm with
  | report i how ht room =>
    have hn : i ∉ (arrivals story).map Completion.index := by
      rw [a.mem_arrivals, ht]
      simp
    have he : (arrivals (story ++ [.arrived (g.completion i how)])).map Completion.index =
        (arrivals story).map Completion.index ++ [i] := by simp [arrivals, completion]
    rw [he]
    exact List.nodup_append'.mpr ⟨h, List.nodup_singleton i, by simpa using hn⟩
  | _ => simpa [arrivals] using h

theorem mem_arrivals_step (a : Account names story g) (hm : g.Moves m what g') (j : Nat) :
    j ∈ (arrivals (story ++ [what])).map Completion.index ↔ g'.tasks[j]? = some .reported := by
  have h := a.mem_arrivals j
  simp only [mem_index_arrivals, mem_arrivals_concat, or_and_right, exists_or] at h ⊢
  obtain ⟨ht, -, hw⟩ | ⟨ht, ht', rfl⟩ | ⟨how, ht, ht', rfl⟩ | ⟨how, ht, ht', rfl⟩ := hm.task j
  · rw [ht, ← h]
    exact or_iff_left fun ⟨c, hc, hj⟩ => hw c hc hj
  · simp [ht', h, ht]
  · simp [ht', h, ht]
  · simp [ht', completion]

theorem arrival_step (a : Account names story g) (hm : g.Moves m what g') (c : Completion)
    (hc : c ∈ arrivals (story ++ [what])) : ∃ how, (c.index, how) ∈ endings (story ++ [what]) ∧
      c.failure = how.failure? ((names[c.index]?).getD "") := by
  simp only [mem_endings_concat]
  obtain hc | rfl := mem_arrivals_concat.mp hc
  · obtain ⟨how, he, hf⟩ := a.arrival c hc
    exact ⟨how, .inl he, hf⟩
  · cases hm with
    | report i how ht room =>
      refine ⟨how, .inl (a.ended i how ht), ?_⟩
      simp only [completion, Group.nameOf, ← a.names_eq, GroupRun.names]

theorem step (a : Account names story g) (hm : g.Moves m what g') :
    Account names (story ++ [what]) g' where
  names_eq := a.names_step hm
  taken_eq := a.taken_step hm
  arrived_eq := a.arrived_step hm
  acts_eq := a.acts_step hm
  tasks_le := a.tasks_step hm
  all_started := a.started_step hm
  endings_nodup := a.endings_nodup_step hm
  mem_endings := a.mem_endings_step hm
  ended := a.ended_step hm
  arrivals_nodup := a.arrivals_nodup_step hm
  mem_arrivals := a.mem_arrivals_step hm
  arrival := a.arrival_step hm

end Account

theorem account_of_run {moves : List GroupMove} (h : (new names).run? moves = some (story, g)) :
    Account names story g :=
  History.run?_induction (P := fun _ story g => Account names story g) (Account.new names)
    (fun _ _ _ _ _ _ _ a hs => a.step (step?_eq_some_iff.mp hs)) h

end GroupRun

end MetricsGateway
