import MetricsGateway.Proofs.Group.Account
import Mathlib.Data.List.Perm.Subperm

/-!
The completions that arrive at a running group. None of them ever waits for room in the channel, and
when the group returns each actor has ended, has arrived and was counted once.
-/

namespace MetricsGateway

namespace Group

variable {g : Group} {c : Completion} {cs : List Completion}

/-- The exit that an act counts. -/
def Act.exit? : Act → Option (String × Bool)
  | .exit actor success => some (actor, success)
  | _ => none

theorem filterMap_exit?_take (g : Group) (c : Completion) :
    (g.take c).1.filterMap Act.exit? = [(g.nameOf c.index, c.isSuccess)] := by
  unfold take
  split
  · simp [fanOut, Act.exit?]
  · simp [Act.exit?]

theorem filterMap_exit?_takeAll (g : Group) (cs : List Completion) :
    (g.takeAll cs).1.filterMap Act.exit? = cs.map fun c => (g.nameOf c.index, c.isSuccess) := by
  induction cs generalizing g with
  | nil => rfl
  | cons c cs ih =>
    simp only [takeAll, List.filterMap_append, filterMap_exit?_take, ih, List.map_cons]
    simp [snd_take, nameOf]

/-- Exits are counted one by one and by nothing else. -/
theorem count_metrics (acts : List Act) (m : Metrics) (name : String) (success : Bool) :
    (metrics acts m).count (.actorExits name success) =
      m.count (.actorExits name success) + (acts.filterMap Act.exit?).count (name, success) := by
  induction acts generalizing m with
  | nil => simp [metrics]
  | cons a acts ih =>
    have hm : metrics (a :: acts) m = metrics acts (metrics [a] m) := rfl
    rw [hm, ih]
    cases a with
    | exit n b =>
      by_cases h : n = name ∧ b = success
      · obtain ⟨rfl, rfl⟩ := h
        simp [metrics, Metrics.record, Metrics.count_raise, Act.exit?]
        omega
      · have h' : (n, b) ≠ (name, success) := by simpa using h
        simp [metrics, Metrics.record, Metrics.count_raise, Act.exit?, h, h']
    | log | interrupt => simp [metrics, Act.exit?, List.filterMap_cons]

end Group

namespace GroupRun

variable {names : List String} {story : List Happening} {g g' : GroupRun} {m : GroupMove}
  {what : Happening} {o : Outcome}

theorem outcome?_eq_some_iff : g.outcome? = some o ↔
    g.names.length ≤ g.group.taken.length ∧ g.due = [] ∧ o = g.group.outcome := by
  simp only [outcome?, Group.returned, Option.ite_none_right_eq_some, Bool.and_eq_true,
    decide_eq_true_eq, List.isEmpty_iff, Option.some.injEq, and_assoc]
  exact and_congr_right fun _ => and_congr_right fun _ => eq_comm

namespace Account

theorem index_lt (a : Account names story g) {i : Nat} {t : RunTask} (h : g.tasks[i]? = some t) :
    i < names.length :=
  Nat.lt_of_lt_of_le (List.getElem?_eq_some_iff.mp h).1 a.tasks_le

theorem arrivals_subset (a : Account names story g) :
    (arrivals story).map Completion.index ⊆ List.range names.length := fun i hi =>
  List.mem_range.mpr (a.index_lt ((a.mem_arrivals i).mp hi))

theorem endings_subset (a : Account names story g) :
    (endings story).map Prod.fst ⊆ List.range names.length := by
  intro i hi
  obtain ⟨how, ht⟩ | ht := (a.mem_endings i).mp hi
  · exact List.mem_range.mpr (a.index_lt ht)
  · exact List.mem_range.mpr (a.index_lt ht)

theorem length_arrivals_le (a : Account names story g) :
    (arrivals story).length ≤ names.length := by
  simpa using (a.arrivals_nodup.subperm a.arrivals_subset).length_le

/-- The channel has room for each completion that is still to be sent: no two arrivals have the same
index, and an actor whose completion is not sent is not among them. -/
theorem room (a : Account names story g) {i : Nat} {how : RunEnd}
    (h : g.tasks[i]? = some (.ended how)) : g.channel.length < g.capacity := by
  have hn : i ∉ (arrivals story).map Completion.index := by
    rw [a.mem_arrivals, h]
    simp
  have hs : i :: (arrivals story).map Completion.index ⊆ List.range names.length :=
    List.cons_subset.mpr ⟨List.mem_range.mpr (a.index_lt h), a.arrivals_subset⟩
  have hl := ((List.nodup_cons.mpr ⟨hn, a.arrivals_nodup⟩).subperm hs).length_le
  simp only [List.length_cons, List.length_map, List.length_range] at hl
  have hc : g.channel.length ≤ (arrivals story).length := by
    rw [a.arrived_eq, arrived, List.length_append]
    exact Nat.le_add_left _ _
  rw [capacity, a.names_eq]
  omega

/-- At the return nothing is left in the channel. -/
theorem taken_eq_arrivals (a : Account names story g) (h : g.outcome? = some o) :
    arrivals story = g.group.taken ∧ (arrivals story).length = names.length := by
  obtain ⟨hl, -, -⟩ := outcome?_eq_some_iff.mp h
  rw [a.names_eq] at hl
  have hle := a.length_arrivals_le
  rw [a.arrived_eq, arrived, List.length_append] at hle
  have hc : g.channel = [] := List.length_eq_zero_iff.mp (by omega)
  rw [a.arrived_eq, arrived, hc, List.append_nil]
  exact ⟨rfl, by omega⟩

theorem arrivals_perm (a : Account names story g) (h : g.outcome? = some o) :
    ((arrivals story).map Completion.index).Perm (List.range names.length) :=
  (a.arrivals_nodup.subperm a.arrivals_subset).perm_of_length_le
    (by simp [(a.taken_eq_arrivals h).2])

/-- Every arrival is that of an actor that ended. -/
theorem arrivals_subset_endings (a : Account names story g) :
    (arrivals story).map Completion.index ⊆ (endings story).map Prod.fst := fun i hi =>
  (a.mem_endings i).mpr (.inr ((a.mem_arrivals i).mp hi))

theorem endings_perm (a : Account names story g) (h : g.outcome? = some o) :
    ((endings story).map Prod.fst).Perm (List.range names.length) := by
  refine (a.endings_nodup.subperm a.endings_subset).perm_of_length_le ?_
  have hl := (a.arrivals_nodup.subperm a.arrivals_subset_endings).length_le
  simpa [(a.taken_eq_arrivals h).2] using hl

/-- At the return every ending has arrived once, as the completion of its actor. -/
theorem arrivals_perm_completions (a : Account names story g) (h : g.outcome? = some o) :
    (arrivals story).Perm ((endings story).map fun e => g.completion e.1 e.2) := by
  have hn : (((endings story).map fun e => g.completion e.1 e.2).map Completion.index).Nodup := by
    simpa [completion, Function.comp_def] using a.endings_nodup
  have hname : ∀ i, g.group.nameOf i = (names[i]?).getD "" := fun i => by rw [← a.names_eq]; rfl
  refine (List.perm_ext_iff_of_nodup a.arrivals_nodup.of_map hn.of_map).mpr fun c => ?_
  constructor
  · intro hc
    obtain ⟨how, he, hf⟩ := a.arrival c hc
    refine List.mem_map.mpr ⟨(c.index, how), he, ?_⟩
    rw [completion, hname, ← hf]
  · intro hc
    obtain ⟨⟨i, how⟩, he, rfl⟩ := List.mem_map.mp hc
    have hi : i ∈ (arrivals story).map Completion.index :=
      (a.arrivals_perm h).mem_iff.mpr (a.endings_subset (List.mem_map.mpr ⟨_, he, rfl⟩))
    obtain ⟨c, hc', rfl⟩ := List.mem_map.mp hi
    obtain ⟨how', he', hf⟩ := a.arrival c hc'
    have hhow := List.inj_on_of_nodup_map a.endings_nodup he he' rfl
    simp only [Prod.mk.injEq, true_and] at hhow
    subst hhow
    have hcc : g.completion c.index how = c := by rw [completion, hname, ← hf]
    rwa [hcc]

/-- The exits that were counted when the group returns. -/
theorem exits_eq (a : Account names story g) (h : g.outcome? = some o) :
    (acts story).filterMap Group.Act.exit? =
      (arrivals story).map fun c => (g.group.nameOf c.index, c.isSuccess) := by
  obtain ⟨-, hd, -⟩ := outcome?_eq_some_iff.mp h
  have he := a.acts_eq
  rw [hd, List.append_nil] at he
  rw [he, Group.filterMap_exit?_takeAll, (a.taken_eq_arrivals h).1, ← a.names_eq]
  rfl

theorem nameOf_eq (a : Account names story g) {i : Nat} {name : String}
    (h : names[i]? = some name) : g.group.nameOf i = name := by
  have hg : g.group.nameOf i = (names[i]?).getD "" := by
    rw [← a.names_eq]
    rfl
  rw [hg, h, Option.getD_some]

/-- Each run is counted once, under the name of its actor and with its result. -/
theorem count_exits (a : Account names story g) (h : g.outcome? = some o) (name : String)
    (success : Bool) :
    (Group.metrics (acts story) .empty).count (.actorExits name success) =
      (endings story).countP fun e =>
        names[e.1]? = some name && decide (e.2 = .ok) = success := by
  have hp := (a.arrivals_perm_completions h).map fun c => (g.group.nameOf c.index, c.isSuccess)
  rw [Group.count_metrics, a.exits_eq h, hp.count_eq, List.map_map, List.count, List.countP_map]
  simp only [Metrics.count, Metrics.empty, List.lookup_nil, Option.getD_none, Nat.zero_add]
  refine List.countP_congr fun e he => ?_
  have hi := List.mem_range.mp (a.endings_subset (List.mem_map.mpr ⟨e, he, rfl⟩))
  have hn : names[e.1]? = some names[e.1] := List.getElem?_eq_getElem hi
  have hs : (g.completion e.1 e.2).isSuccess = decide (e.2 = .ok) := by
    cases e.2 <;> rfl
  have hindex : (g.completion e.1 e.2).index = e.1 := rfl
  simp only [Function.comp_apply, hs, hindex, a.nameOf_eq hn, hn]
  simp

end Account

end GroupRun

end MetricsGateway
