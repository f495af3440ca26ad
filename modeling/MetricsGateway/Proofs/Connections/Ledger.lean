import MetricsGateway.Proofs.Connections.Census

/-!
The counts of the ledger against a census that goes through all connections. Main statement: after any steps the
count of each tracker is the number of open connections that it or a tracker of its family opened, numbers are
given in the order of opening, and the gauge shows the count that was changed last.
-/

namespace MetricsGateway

namespace ConnectionLedger

variable {l : ConnectionLedger} {c : Census} {k n t : Nat} {e : Enrolled}

/-- The ledger after some steps. -/
def after (steps : List Step) : ConnectionLedger := steps.foldl (fun l s => (l.step s).2) new

/-- The ledger has what the census has, and its counts are right. -/
structure Tallied (c : Census) (l : ConnectionLedger) : Prop where
  trackers : l.trackers.length = c.families.length
  shares : ∀ a b, a < c.families.length → b < c.families.length →
    (l.trackers[a]? = l.trackers[b]? ↔ c.families[a]? = c.families[b]?)
  used : ∀ k ∈ l.trackers, k < l.counts.length
  known : ∀ f ∈ c.families, f < c.families.length
  enrolled : ∀ e ∈ c.connections, e.tracker < c.families.length
  guards : l.guards = c.connections.mapIdx (Enrolled.guard l.trackers)
  counted : ∀ k < l.counts.length, l.counts[k]? = some (c.openAt l.trackers (some k))

namespace Tallied

theorem new : Tallied Census.new ConnectionLedger.new where
  trackers := rfl
  shares a b ha hb := by
    obtain rfl : a = 0 := Nat.lt_one_iff.mp ha
    obtain rfl : b = 0 := Nat.lt_one_iff.mp hb
    exact ⟨fun _ => rfl, fun _ => rfl⟩
  used k hk := by
    rw [List.mem_singleton.mp hk]
    exact Nat.zero_lt_one
  known f hf := by
    rw [List.mem_singleton.mp hf]
    exact Nat.zero_lt_one
  enrolled e he := by cases he
  guards := rfl
  counted k hk := by
    obtain rfl : k = 0 := Nat.lt_one_iff.mp hk
    rfl

theorem exists_count (h : Tallied c l) (ht : t < c.families.length) :
    ∃ k, l.trackers[t]? = some k ∧ k < l.counts.length := by
  rw [← h.trackers] at ht
  exact ⟨_, List.getElem?_eq_getElem ht, h.used _ (List.getElem_mem ht)⟩

/-! ## Further trackers -/

theorem getElem?_further (h : Tallied c l) (he : e ∈ c.connections) (k : Nat) :
    (l.trackers ++ [k])[e.tracker]? = l.trackers[e.tracker]? :=
  List.getElem?_append_left (h.trackers ▸ h.enrolled e he)

theorem guards_further (h : Tallied c l) (k : Nat) :
    c.connections.mapIdx (Enrolled.guard (l.trackers ++ [k])) = l.guards := by
  rw [h.guards, List.mapIdx_eq_mapIdx_iff]
  intro n hn
  rw [Enrolled.guard, List.getD_eq_getElem?_getD, h.getElem?_further (List.getElem_mem hn), Enrolled.guard,
    List.getD_eq_getElem?_getD]

/-- A further tracker that shares its place with the same trackers as its family. -/
theorem further {f : Nat} {counts : List Nat} (h : Tallied c l)
    (hshares : ∀ a < c.families.length, l.trackers[a]? = some k ↔ c.families[a]? = some f)
    (hf : f ≤ c.families.length) (hk : k < counts.length) (hle : l.counts.length ≤ counts.length)
    (hcounted : ∀ j < counts.length, counts[j]? = some (c.openAt l.trackers (some j))) :
    Tallied { c with families := c.families ++ [f] } { l with trackers := l.trackers ++ [k], counts } := by
  have hlength : (c.families ++ [f]).length = c.families.length + 1 := List.length_append
  have hlast : (l.trackers ++ [k])[c.families.length]? = some k := by
    rw [← h.trackers, List.getElem?_concat_length]
  have hold : ∀ a < c.families.length, (l.trackers ++ [k])[a]? = l.trackers[a]? ∧
      (c.families ++ [f])[a]? = c.families[a]? := fun a ha =>
    ⟨List.getElem?_append_left (h.trackers ▸ ha), List.getElem?_append_left ha⟩
  refine ⟨by simp [h.trackers], fun a b ha hb => ?_, fun k' hk' => ?_, fun f' hf' => ?_, fun e he => ?_,
    (h.guards_further k).symm, fun j hj => ?_⟩
  · obtain ha | rfl := Nat.lt_or_eq_of_le (Nat.le_of_lt_succ (hlength ▸ ha)) <;>
      obtain hb | rfl := Nat.lt_or_eq_of_le (Nat.le_of_lt_succ (hlength ▸ hb))
    · rw [(hold a ha).1, (hold a ha).2, (hold b hb).1, (hold b hb).2]
      exact h.shares a b ha hb
    · rw [(hold a ha).1, (hold a ha).2, hlast, List.getElem?_concat_length]
      exact hshares a ha
    · rw [(hold b hb).1, (hold b hb).2, hlast, List.getElem?_concat_length, eq_comm, hshares b hb, eq_comm]
    · exact iff_of_true rfl rfl
  · obtain hk' | hk' := List.mem_append.mp hk'
    · exact Nat.lt_of_lt_of_le (h.used k' hk') hle
    · rwa [List.mem_singleton.mp hk']
  · rw [hlength]
    obtain hf' | hf' := List.mem_append.mp hf'
    · exact Nat.lt_succ_of_lt (h.known f' hf')
    · rw [List.mem_singleton.mp hf']
      exact Nat.lt_succ_of_le hf
  · rw [hlength]
    exact Nat.lt_succ_of_lt (h.enrolled e he)
  · rw [hcounted j hj]
    exact congrArg some (Census.openAt_append (fun e he => h.trackers ▸ h.enrolled e he) [k]).symm

theorem copy (h : Tallied c l) (t : Nat) : Tallied (c.step (.copy t)) (l.step (.copy t)).2 := by
  obtain ht | ht := Nat.lt_or_ge t c.families.length
  · obtain ⟨k, hk, hlt⟩ := h.exists_count ht
    obtain ⟨f, hf⟩ : ∃ f, c.families[t]? = some f := ⟨_, List.getElem?_eq_getElem ht⟩
    have hc : c.step (.copy t) = { c with families := c.families ++ [f] } := by
      rw [Census.step, hf]
    have hl : (l.step (.copy t)).2 = { l with trackers := l.trackers ++ [k] } := by
      rw [step, ConnectionLedger.copy, hk]
    rw [hc, hl]
    refine h.further (fun a ha => ?_) (Nat.le_of_lt (h.known f (List.mem_of_getElem? hf))) hlt (Nat.le_refl _)
      h.counted
    rw [← hk, ← hf]
    exact h.shares a t ha ht
  · have hc : c.step (.copy t) = c := by rw [Census.step, List.getElem?_eq_none ht]
    have hl : (l.step (.copy t)).2 = l := by
      rw [step, ConnectionLedger.copy, List.getElem?_eq_none (h.trackers ▸ ht)]
    rwa [hc, hl]

theorem add (h : Tallied c l) : Tallied (c.step .add) (l.step .add).2 := by
  refine h.further (fun a ha => iff_of_false (fun hk => ?_) fun hf => ?_) (Nat.le_refl _) (by simp) (by simp)
    fun j hj => ?_
  · exact Nat.lt_irrefl _ (h.used _ (List.mem_of_getElem? hk))
  · exact Nat.lt_irrefl _ (h.known _ (List.mem_of_getElem? hf))
  · obtain hj | rfl := Nat.lt_or_eq_of_le (Nat.le_of_lt_succ (List.length_append ▸ hj))
    · rw [List.getElem?_append_left hj, h.counted j hj]
    · -- Nobody counts yet where the new tracker does.
      have hnone : c.openAt l.trackers (some l.counts.length) = 0 := List.countP_eq_zero.mpr fun e he hopen => by
        obtain ⟨-, hk⟩ : e.isOpen = true ∧ l.trackers[e.tracker]? = some l.counts.length := by simpa using hopen
        exact Nat.lt_irrefl _ (h.used _ (List.mem_of_getElem? hk))
      rw [List.getElem?_concat_length, hnone]

/-! ## Connections opened and ended -/

theorem getD_counts (h : Tallied c l) (hk : k < l.counts.length) :
    l.counts.getD k 0 = c.openAt l.trackers (some k) := by
  rw [List.getD_eq_getElem?_getD, h.counted k hk, Option.getD_some]

/-- The count in one place is changed as the census says, and the counts in all others are right already. -/
theorem recount {connections : List Enrolled} {guards : List ConnectionGuard} {change : Nat → Nat}
    (h : Tallied c l) (hk : k < l.counts.length) (henrolled : ∀ e ∈ connections, e.tracker < c.families.length)
    (hguards : guards = connections.mapIdx (Enrolled.guard l.trackers))
    (hchange : change (c.openAt l.trackers (some k)) = Census.openAt { c with connections } l.trackers (some k))
    (hothers : ∀ j ≠ k, Census.openAt { c with connections } l.trackers (some j) = c.openAt l.trackers (some j)) :
    Tallied { c with connections } (changeCount { l with guards } k change) := by
  have hlength : (l.counts.set k (change (l.counts.getD k 0))).length = l.counts.length := List.length_set
  refine ⟨h.trackers, h.shares, fun k' hk' => ?_, h.known, henrolled, hguards, fun j hj => ?_⟩
  · exact Nat.lt_of_lt_of_eq (h.used k' hk') hlength.symm
  · have hj : j < l.counts.length := Nat.lt_of_lt_of_eq hj hlength
    obtain rfl | hne := Decidable.em (j = k)
    · refine (List.getElem?_set_self hk).trans (congrArg some ?_)
      rw [h.getD_counts hk]
      exact hchange
    · refine (List.getElem?_set_ne (Ne.symm hne)).trans ((h.counted j hj).trans (congrArg some ?_))
      exact (hothers j hne).symm

theorem step_track (hk : l.trackers[t]? = some k) : (l.step (.track t)).2 =
    changeCount { l with guards := l.guards ++ [⟨l.guards.length + 1, k, true⟩] } k (· + 1) := by
  rw [ConnectionLedger.step, ConnectionLedger.track, hk]
  rfl

theorem step_track_of_le (h : Tallied c l) (ht : c.families.length ≤ t) : (l.step (.track t)).2 = l := by
  rw [ConnectionLedger.step, ConnectionLedger.track, List.getElem?_eq_none (h.trackers ▸ ht)]
  rfl

theorem track (h : Tallied c l) (t : Nat) : Tallied (c.step (.track t)) (l.step (.track t)).2 := by
  obtain ht | ht := Nat.lt_or_ge t c.families.length
  · obtain ⟨k, hk, hlt⟩ := h.exists_count ht
    rw [Census.step_track ht, step_track hk]
    refine h.recount hlt (fun e he => ?_) ?_ ?_ fun j hne => ?_
    · obtain he | he := List.mem_append.mp he
      · exact h.enrolled e he
      · rwa [List.mem_singleton.mp he]
    · rw [List.mapIdx_concat, ← h.guards, Enrolled.guard, List.getD_eq_getElem?_getD, hk, h.guards,
        List.length_mapIdx]
      rfl
    · rw [Census.openAt_opened, if_pos hk]
    · rw [Census.openAt_opened, if_neg fun hj => hne (Option.some.inj (hj.symm.trans hk))]
      rfl
  · have hc : c.step (.track t) = c := if_neg (Nat.not_lt.mpr ht)
    rwa [hc, h.step_track_of_le ht]

/-- The guard of a connection is found at its place. -/
theorem getElem?_guards (h : Tallied c l) (n : Nat) :
    l.guards[n]? = c.connections[n]?.map (Enrolled.guard l.trackers n) := by
  rw [h.guards, List.getElem?_mapIdx]

theorem getElem?_guards_of_open (h : Tallied c l) (hn : c.connections[n]? = some ⟨t, true⟩)
    (hk : l.trackers[t]? = some k) : l.guards[n]? = some ⟨n + 1, k, true⟩ := by
  rw [h.getElem?_guards, hn, Option.map_some, Enrolled.guard, List.getD_eq_getElem?_getD, hk, Option.getD_some]

theorem step_release (hn : l.guards[n]? = some ⟨n + 1, k, true⟩) : (l.step (.release n)).2 =
    changeCount { l with guards := l.guards.set n ⟨n + 1, k, false⟩ } k (· - 1) := by
  rw [ConnectionLedger.step, ConnectionLedger.release, hn]
  rfl

theorem step_release_of_not_open (h : Tallied c l) (hn : ∀ t, c.connections[n]? ≠ some ⟨t, true⟩) :
    (l.step (.release n)).2 = l := by
  rw [ConnectionLedger.step, ConnectionLedger.release, h.getElem?_guards]
  cases hget : c.connections[n]? with
  | none => rfl
  | some e =>
    obtain ⟨t, isOpen⟩ := e
    cases isOpen with
    | true => exact absurd hget (hn t)
    | false => rfl

theorem release (h : Tallied c l) (n : Nat) : Tallied (c.step (.release n)) (l.step (.release n)).2 := by
  by_cases hopen : ∃ t, c.connections[n]? = some ⟨t, true⟩
  · obtain ⟨t, hn⟩ := hopen
    have ht : t < c.families.length := h.enrolled _ (List.mem_of_getElem? hn)
    obtain ⟨k, hk, hlt⟩ := h.exists_count ht
    rw [Census.step_release hn, step_release (h.getElem?_guards_of_open hn hk)]
    refine h.recount hlt (fun e he => ?_) ?_ ?_ fun j hne => ?_
    · obtain he | rfl := List.mem_or_eq_of_mem_set he
      · exact h.enrolled e he
      · exact ht
    · rw [List.mapIdx_set, ← h.guards, Enrolled.guard, List.getD_eq_getElem?_getD, hk, Option.getD_some]
    · rw [← Census.openAt_ended hn, if_pos hk, Nat.add_sub_cancel]
    · rw [← Census.openAt_ended hn, if_neg fun hj => hne (Option.some.inj (hj.symm.trans hk))]
      rfl
  · rw [not_exists] at hopen
    rwa [Census.step_release_of_not_open hopen, h.step_release_of_not_open hopen]

theorem step (h : Tallied c l) (s : Step) : Tallied (c.step s) (l.step s).2 := by
  cases s with
  | track t => exact h.track t
  | copy t => exact h.copy t
  | add => exact h.add
  | release n => exact h.release n

/-! ## What is answered -/

theorem length_active (h : Tallied c l) : l.active.length = c.families.length :=
  List.length_map _ |>.trans h.trackers

theorem getElem?_active (h : Tallied c l) (ht : t < c.families.length) : l.active[t]? = some (c.openIn t) := by
  obtain ⟨k, hk, hlt⟩ := h.exists_count ht
  rw [active, List.getElem?_map, hk, Option.map_some, h.getD_counts hlt]
  refine congrArg some (List.countP_congr fun e he => ?_)
  have hshares := h.shares e.tracker t (h.enrolled e he) ht
  rw [hk] at hshares
  simp only [Bool.and_eq_true, decide_eq_true_eq, hshares]

theorem active_eq (h : Tallied c l) : l.active = (List.range c.families.length).map c.openIn := by
  refine List.ext_getElem (by simp [h.length_active]) fun t ht _ => ?_
  have hlt : t < c.families.length := h.length_active ▸ ht
  rw [List.getElem_map, List.getElem_range, ← Option.some.injEq, ← List.getElem?_eq_getElem ht,
    h.getElem?_active hlt]

/-- Connections have the numbers from one on. -/
theorem numbers_eq (h : Tallied c l) : l.guards.map (·.number) = List.range' 1 c.connections.length := by
  rw [h.guards]
  refine List.ext_getElem (by simp) fun n _ _ => ?_
  rw [List.getElem_map, List.getElem_mapIdx, List.getElem_range', Nat.one_mul, Nat.add_comm]
  rfl

theorem gauge_changeCount (hk : l.trackers[t]? = some k) (hlt : k < l.counts.length)
    (guards : List ConnectionGuard) (change : Nat → Nat) :
    (changeCount { l with guards } k change).gauge = (changeCount { l with guards } k change).active[t]? := by
  have hactive : (changeCount { l with guards } k change).active[t]? =
      some ((changeCount { l with guards } k change).counts.getD k 0) := List.getElem?_map.trans (congrArg _ hk)
  rw [hactive, List.getD_eq_getElem?_getD, changeCount, List.getElem?_set_self hlt, Option.getD_some]

theorem gauge_of_touched (h : Tallied c l) {s : Step} (hs : c.touched? s = some t) :
    (l.step s).2.gauge = (l.step s).2.active[t]? := by
  obtain ⟨rfl, ht⟩ | ⟨n, rfl, hn⟩ := Census.touched?_eq_some_iff.mp hs
  · obtain ⟨k, hk, hlt⟩ := h.exists_count ht
    rw [step_track hk]
    exact gauge_changeCount hk hlt _ _
  · obtain ⟨k, hk, hlt⟩ := h.exists_count (h.enrolled _ (List.mem_of_getElem? hn))
    rw [step_release (h.getElem?_guards_of_open hn hk)]
    exact gauge_changeCount hk hlt _ _

theorem gauge_of_untouched (h : Tallied c l) {s : Step} (hs : c.touched? s = none) :
    (l.step s).2.gauge = l.gauge := by
  cases s with
  | track t =>
    have ht : ¬ t < c.families.length := fun hlt => by
      rw [Census.touched?_eq_some_iff.mpr (.inl ⟨rfl, hlt⟩)] at hs
      cases hs
    rw [h.step_track_of_le (Nat.not_lt.mp ht)]
  | copy t =>
    rw [ConnectionLedger.step, ConnectionLedger.copy]
    split <;> rfl
  | add => rfl
  | release n => rw [h.step_release_of_not_open (Census.not_open_of_untouched hs)]

end Tallied

theorem tallied_after (steps : List Step) : Tallied (Census.after steps) (after steps) := by
  suffices go : ∀ c l, Tallied c l →
      Tallied (steps.foldl Census.step c) (steps.foldl (fun l s => (l.step s).2) l) from go _ _ .new
  induction steps with
  | nil => exact fun c l h => h
  | cons s steps ih => exact fun c l h => ih _ _ (h.step s)

/-- What a further step does to counts and gauge. One that opens or ends no connection leaves both as they are.
One that does changes the count of its tracker's family by one and no other, and the gauge shows that count. -/
structure Recounts (c : Census) (l : ConnectionLedger) (s : Step) : Prop where
  untouched : c.touched? s = none → (l.step s).2.gauge = l.gauge ∧
    ∀ i < c.families.length, (l.step s).2.active[i]? = l.active[i]?
  gauge : ∀ t, c.touched? s = some t → ∃ n, (l.step s).2.active[t]? = some n ∧ (l.step s).2.gauge = some n
  unrelated : ∀ t, c.touched? s = some t → ∀ i < c.families.length, c.families[t]? ≠ c.families[i]? →
    (l.step s).2.active[i]? = l.active[i]?
  opened : ∀ t, s = .track t → c.touched? s = some t → ∀ i < c.families.length,
    c.families[t]? = c.families[i]? → ∃ n, l.active[i]? = some n ∧ (l.step s).2.active[i]? = some (n + 1)
  ended : ∀ place t, s = .release place → c.touched? s = some t → ∀ i < c.families.length,
    c.families[t]? = c.families[i]? → ∃ n, l.active[i]? = some (n + 1) ∧ (l.step s).2.active[i]? = some n

theorem Tallied.recounts (h : Tallied c l) (s : Step) : Recounts c l s := by
  have h' : Tallied (c.step s) (l.step s).2 := h.step s
  have hactive : ∀ i < c.families.length, (l.step s).2.active[i]? = some ((c.step s).openIn i) := fun i hi =>
    h'.getElem?_active (Nat.lt_of_lt_of_le hi (c.length_families_le_step s))
  have hlt : ∀ t, c.touched? s = some t → t < c.families.length := fun t hs => by
    obtain ⟨rfl, ht⟩ | ⟨n, rfl, hn⟩ := Census.touched?_eq_some_iff.mp hs
    · exact ht
    · exact h.enrolled _ (List.mem_of_getElem? hn)
  refine ⟨fun hs => ⟨h.gauge_of_untouched hs, fun i hi => ?_⟩, fun t hs => ?_, fun t hs i hi hne => ?_,
    fun t hst hs i hi hfamily => ?_, fun place t hst hs i hi hfamily => ?_⟩
  · rw [hactive i hi, h.getElem?_active hi, Census.openIn_of_untouched h.enrolled hs hi]
  · refine ⟨_, hactive t (hlt t hs), ?_⟩
    rw [h.gauge_of_touched hs, hactive t (hlt t hs)]
  · rw [hactive i hi, h.getElem?_active hi]
    obtain ⟨rfl, ht⟩ | ⟨n, rfl, hn⟩ := Census.touched?_eq_some_iff.mp hs
    · rw [Census.step_track ht, Census.openIn, Census.openAt_opened, if_neg hne]
      rfl
    · rw [Census.step_release hn, Census.openIn, Census.openIn, ← Census.openAt_ended hn, if_neg hne]
      rfl
  · subst hst
    refine ⟨_, h.getElem?_active hi, ?_⟩
    rw [hactive i hi, Census.step_track (hlt t hs), Census.openIn, Census.openAt_opened, if_pos hfamily]
    rfl
  · subst hst
    obtain ⟨hc, -⟩ | ⟨n, hplace, hn⟩ := Census.touched?_eq_some_iff.mp hs
    · cases hc
    · obtain rfl := Step.release.inj hplace
      refine ⟨_, ?_, hactive i hi⟩
      rw [h.getElem?_active hi, Census.step_release hn, Census.openIn, ← Census.openAt_ended hn, if_pos hfamily]
      rfl

/-- A step gives the next number when it opens a connection, and none otherwise. -/
theorem Tallied.number_step (h : Tallied c l) (s : Step) :
    List.range' 1 c.connections.length ++ (l.step s).1.number.toList =
      List.range' 1 (c.step s).connections.length := by
  cases s with
  | track t =>
    obtain ht | ht := Nat.lt_or_ge t c.families.length
    · obtain ⟨k, hk, -⟩ := h.exists_count ht
      have hnumber : (l.step (.track t)).1.number = some (1 + c.connections.length) := by
        rw [ConnectionLedger.step, ConnectionLedger.track, hk, Nat.add_comm,
          ← List.length_mapIdx (f := Enrolled.guard l.trackers), ← h.guards]
        rfl
      rw [hnumber, Census.step_track ht, List.length_append, List.length_singleton, List.range'_1_concat]
      rfl
    · have hnone : (l.step (.track t)).1.number = none := by
        rw [ConnectionLedger.step, ConnectionLedger.track, List.getElem?_eq_none (h.trackers ▸ ht)]
        rfl
      have hc : c.step (.track t) = c := if_neg (Nat.not_lt.mpr ht)
      rw [hnone, hc, Option.toList_none, List.append_nil]
  | copy t =>
    have hconnections : (c.step (.copy t)).connections = c.connections := by
      rw [Census.step]
      split <;> rfl
    rw [hconnections]
    exact List.append_nil _
  | add => exact List.append_nil _
  | release n =>
    have hlength : (c.step (.release n)).connections.length = c.connections.length := by
      rw [Census.step]
      split
      · exact List.length_set
      · rfl
    rw [hlength]
    exact List.append_nil _

theorem run_concat (l : ConnectionLedger) (steps : List Step) (s : Step) :
    l.run (steps ++ [s]) = l.run steps ++ [(steps.foldl (fun l s => (l.step s).2) l).step s] := by
  induction steps generalizing l with
  | nil => rfl
  | cons first steps ih =>
    rw [List.cons_append, run, run, List.foldl_cons, List.cons_append]
    exact congrArg _ (ih _)

theorem numbers_run (steps : List Step) :
    (new.run steps).filterMap (·.1.number) = List.range' 1 (Census.after steps).connections.length := by
  suffices go : ∀ c l, Tallied c l →
      List.range' 1 c.connections.length ++ (l.run steps).filterMap (·.1.number) =
        List.range' 1 (steps.foldl Census.step c).connections.length from go _ _ .new
  induction steps with
  | nil => exact fun c l _ => List.append_nil _
  | cons s steps ih =>
    intro c l h
    rw [run, List.filterMap_cons, List.foldl_cons, ← ih _ _ (h.step s), ← h.number_step s, List.append_assoc]
    cases (l.step s).1.number <;> rfl

/-- After any steps with any trackers and connections the count of each tracker is the number of open
connections that it or a tracker of its family opened. Connections are numbered one after the other as they
are opened, from one on and whichever tracker opens them; no number is larger than the count of steps, so that
numbers of 64 bits do not run out in fewer than `2 ^ 64` steps. And whatever the next step is, it changes the
counts of one family or of none, never takes from a count of zero, and leaves the count that it changed in the
gauge. -/
theorem counts_open_connections (steps : List Step) :
    (after steps).active = (List.range (Census.after steps).families.length).map (Census.after steps).openIn ∧
    (after steps).guards.map (·.number) = (new.run steps).filterMap (·.1.number) ∧
    ((new.run steps).filterMap (·.1.number)).Pairwise (· < ·) ∧
    (∀ number ∈ (new.run steps).filterMap (·.1.number), 0 < number ∧ number ≤ steps.length ∧
      (steps.length < UInt64.size → number < UInt64.size)) ∧
    ∀ s, new.run (steps ++ [s]) = new.run steps ++ [(after steps).step s] ∧
      Recounts (Census.after steps) (after steps) s := by
  have h := tallied_after steps
  have hnumbers := numbers_run steps
  refine ⟨h.active_eq, h.numbers_eq.trans hnumbers.symm, ?_, fun number hnumber => ?_,
    fun s => ⟨run_concat new steps s, h.recounts s⟩⟩
  · rw [hnumbers]
    exact List.pairwise_lt_range'
  · rw [hnumbers, List.mem_range'_1] at hnumber
    have hopened : (Census.after steps).connections.length ≤ steps.length :=
      Census.length_connections_after_le steps
    have hle : number ≤ steps.length := by omega
    exact ⟨hnumber.1, hle, Nat.lt_of_le_of_lt hle⟩

/-- A tracker, a copy of it and a further tracker: the connections of the first two are counted together. -/
example : (after [.copy 0, .add, .track 0, .track 1, .track 2, .release 0, .release 0]).active = [1, 1, 1] := by
  decide

end ConnectionLedger

end MetricsGateway
