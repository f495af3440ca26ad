import MetricsGateway.Connections.SharedGauge
import MetricsGateway.Proofs.Connections.Ledger

/-!
The gauge of open connections while tasks come in between one another. Main statement: the count is always
right, and the gauge shows it whenever nothing is left to be published, unless the newest number was published
before an older one since the count was last changed. Then the gauge stays behind until a connection is opened
or ended again.
-/

namespace MetricsGateway

namespace GaugeMove

/-- Is the count changed? -/
def isCounting : GaugeMove → Bool
  | .publish _ => false
  | _ => true

/-- Is the newest number published while an older one is still pending? -/
def overtakes (g : SharedGauge) : GaugeMove → Bool
  | .publish place => 0 < place && place + 1 = g.pending.length
  | _ => false

end GaugeMove

namespace SharedGauge

variable {g g' t : SharedGauge} {m : GaugeMove} {moves past rest : List GaugeMove}

/-- Does no move of a history overtake? -/
def isOrderly (g : SharedGauge) : List GaugeMove → Bool
  | [] => true
  | m :: rest => !m.overtakes g && (g.step? m).all (·.isOrderly rest)

/-- Where a move leads. -/
inductive Moves (g : SharedGauge) : GaugeMove → SharedGauge → Prop where
  | opening : Moves g .opening (g.recount true (g.count + 1))
  | closing (h : 0 < g.held) : Moves g .closing ({ g with held := g.held - 1 }.recount false (g.count - 1))
  | publish (older : List Announcement) (a : Announcement) (newer : List Announcement)
      (h : g.pending = older ++ a :: newer) :
      Moves g (.publish older.length)
        { g with
          gauge := some a.count
          held := if a.opening then g.held + 1 else g.held
          pending := older ++ newer }

theorem moves_of_step? (h : g.step? m = some g') : g.Moves m g' := by
  cases m with
  | opening =>
    cases h
    exact .opening
  | closing =>
    simp only [step?, Option.ite_none_left_eq_some, Option.some.injEq] at h
    obtain ⟨hheld, rfl⟩ := h
    exact .closing (Nat.pos_of_ne_zero hheld)
  | publish place =>
    obtain ⟨a, ha, rfl⟩ := Option.map_eq_some_iff.mp h
    obtain ⟨hlt, rfl⟩ := List.getElem?_eq_some_iff.mp ha
    have hpending : g.pending = g.pending.take place ++ g.pending[place] :: g.pending.drop (place + 1) := by
      rw [List.getElem_cons_drop, List.take_append_drop]
    have hmoves := Moves.publish _ _ _ hpending
    rwa [List.length_take_of_le (Nat.le_of_lt hlt), ← List.eraseIdx_eq_take_drop_succ] at hmoves

/-! ## Histories -/

theorem run?_append : g.run? (past ++ rest) = (g.run? past).bind (·.run? rest) := by
  induction past generalizing g with
  | nil => rfl
  | cons m past ih =>
    rw [List.cons_append, run?, run?, Option.bind_assoc]
    exact Option.bind_congr fun _ _ => ih

theorem run?_single : g.run? [m] = g.step? m := Option.bind_fun_some _

theorem run?_concat (h : g.run? moves = some t) (hm : t.step? m = some g') :
    g.run? (moves ++ [m]) = some g' := by
  rw [run?_append, h, Option.bind_some, run?_single, hm]

/-- What holds at first and is kept by each move holds after every history. -/
theorem run?_induction {P : List GaugeMove → SharedGauge → Prop} (start : P [] g)
    (step : ∀ moves t m t', g.run? moves = some t → P moves t → t.step? m = some t' → P (moves ++ [m]) t')
    (h : g.run? moves = some t) : P moves t := by
  suffices go : ∀ past u, g.run? past = some u → P past u → ∀ rest, u.run? rest = some t → P (past ++ rest) t from
    go [] g rfl start moves h
  intro past u hu hp rest
  induction rest generalizing past u with
  | nil =>
    intro ht
    obtain rfl := Option.some.inj ht
    rwa [List.append_nil]
  | cons m rest ih =>
    intro ht
    obtain ⟨v, hm, hv⟩ := Option.bind_eq_some_iff.mp ht
    rw [List.append_cons]
    exact ih (past ++ [m]) v (run?_concat hu hm) (step past u m v hu hp hm) hv

/-! ## The count -/

/-- The connections that are held and those that are being opened: what the count should be. -/
def live (g : SharedGauge) : Nat := g.held + g.pending.countP (·.opening)

theorem count_of_moves (hm : g.Moves m g') (h : g.count = g.live) : g'.count = g'.live := by
  cases hm with
  | opening =>
    simp only [live, recount, List.countP_append, List.countP_singleton, if_true] at h ⊢
    omega
  | closing hheld =>
    simp only [live, recount, List.countP_append, List.countP_singleton, Bool.false_eq_true, if_false] at h ⊢
    omega
  | publish older a newer hpending =>
    obtain ⟨opening, count⟩ := a
    cases opening <;>
      simp only [live, hpending, List.countP_append, List.countP_cons, if_true, Bool.false_eq_true,
        if_false] at h ⊢ <;>
      omega

theorem count_of_run (h : new.run? moves = some g) : g.count = g.live :=
  run?_induction (P := fun _ g => g.count = g.live) rfl
    (fun _ _ _ _ _ hc hm => count_of_moves (moves_of_step? hm) hc) h

/-! ## The gauge -/

/-- What the gauge shows in the end when the numbers are published in the order in which they were seen. -/
def awaited (g : SharedGauge) : Nat := (g.pending.getLast?.map (·.count)).getD (g.gauge.getD 0)

theorem isExact_of_awaited (h : g.awaited = g.count) (hquiet : g.isQuiet = true) : g.isExact = true := by
  have hnil : g.pending = [] := List.isEmpty_iff.mp hquiet
  rw [awaited, hnil] at h
  exact decide_eq_true h

theorem awaited_of_counting (hm : g.Moves m g') (hcounting : m.isCounting = true) : g'.awaited = g'.count := by
  cases hm with
  | opening | closing =>
    rw [awaited, recount, List.getLast?_concat]
    rfl
  | publish => cases hcounting

theorem awaited_of_moves (hm : g.Moves m g') (horderly : m.overtakes g = false) (h : g.awaited = g.count) :
    g'.awaited = g'.count := by
  cases hm with
  | opening => exact awaited_of_counting .opening rfl
  | closing hheld => exact awaited_of_counting (.closing hheld) rfl
  | publish older a newer hpending =>
    rw [awaited, hpending] at h
    cases newer with
    | nil =>
      -- Only the newest number is left, and it is published now.
      obtain rfl : older = [] := by
        simpa [GaugeMove.overtakes, hpending] using horderly
      exact h
    | cons b newer =>
      have hlast : (older ++ a :: b :: newer).getLast? = (older ++ b :: newer).getLast? := by
        rw [List.getLast?_append, List.getLast?_append, List.getLast?_cons_cons]
      obtain ⟨z, hz⟩ : ∃ z, (older ++ b :: newer).getLast? = some z :=
        ⟨_, List.getLast?_eq_some_getLast (by simp)⟩
      rw [hlast, hz] at h
      rw [awaited, hz]
      exact h

theorem awaited_of_run (h : g.run? moves = some g') (horderly : g.isOrderly moves = true)
    (hawaited : g.awaited = g.count) : g'.awaited = g'.count := by
  induction moves generalizing g with
  | nil =>
    obtain rfl := Option.some.inj h
    exact hawaited
  | cons m moves ih =>
    obtain ⟨t, hm, ht⟩ := Option.bind_eq_some_iff.mp h
    rw [isOrderly, hm, Option.all_some, Bool.and_eq_true, Bool.not_eq_true'] at horderly
    exact ih ht horderly.2 (awaited_of_moves (moves_of_step? hm) horderly.1 hawaited)

/-- Was this the count at some time in a history? -/
def Former (moves : List GaugeMove) (n : Nat) : Prop :=
  ∃ past t, past <+: moves ∧ new.run? past = some t ∧ t.count = n

theorem Former.concat {n : Nat} (h : Former moves n) (m : GaugeMove) : Former (moves ++ [m]) n := by
  obtain ⟨past, t, hprefix, ht⟩ := h
  exact ⟨past, t, hprefix.trans (List.prefix_append moves [m]), ht⟩

theorem former_of_moves (ht : new.run? (moves ++ [m]) = some g') (hm : g.Moves m g')
    (hgauge : Former moves (g.gauge.getD 0)) (hpending : ∀ a ∈ g.pending, Former moves a.count) :
    Former (moves ++ [m]) (g'.gauge.getD 0) ∧ ∀ a ∈ g'.pending, Former (moves ++ [m]) a.count := by
  cases hm with
  | opening | closing =>
    refine ⟨hgauge.concat _, fun a ha => ?_⟩
    obtain ha | ha := List.mem_append.mp ha
    · exact (hpending a ha).concat _
    · rw [List.mem_singleton.mp ha]
      exact ⟨_, _, List.prefix_rfl, ht, rfl⟩
  | publish older a newer heq =>
    rw [heq] at hpending
    refine ⟨(hpending a List.mem_append_cons_self).concat _, fun b hb => (hpending b ?_).concat _⟩
    exact ((List.sublist_cons_self a newer).append_left older).subset hb

/-- What the gauge shows and what is pending were counts once. -/
theorem former_of_run (h : new.run? moves = some g) :
    Former moves (g.gauge.getD 0) ∧ ∀ a ∈ g.pending, Former moves a.count :=
  run?_induction (P := fun moves g => Former moves (g.gauge.getD 0) ∧ ∀ a ∈ g.pending, Former moves a.count)
    ⟨⟨[], _, List.prefix_rfl, rfl, rfl⟩, fun _ ha => absurd ha List.not_mem_nil⟩
    (fun _ _ _ _ ht hf hm => former_of_moves (run?_concat ht hm) (moves_of_step? hm) hf.1 hf.2) h

/-- In every history of tasks that open and end connections, whatever comes in between the two steps of each,
the count is that of the live connections, and the gauge shows what was the count at some time. It shows
the count when nothing is left to be published, if no task overtakes another one in the whole history or since
the count was last changed. -/
theorem exact_unless_overtaken (h : new.run? moves = some g) :
    g.count = g.live ∧
    Former moves (g.gauge.getD 0) ∧
    (new.isOrderly moves = true → g.isQuiet = true → g.isExact = true) ∧
    ∀ past m rest, moves = past ++ m :: rest → m.isCounting = true →
      ∃ t, new.run? (past ++ [m]) = some t ∧ (t.isOrderly rest = true → g.isQuiet = true → g.isExact = true) := by
  refine ⟨count_of_run h, (former_of_run h).1, fun horderly hquiet => ?_, fun past m rest heq hcounting => ?_⟩
  · exact isExact_of_awaited (awaited_of_run h horderly rfl) hquiet
  · subst heq
    rw [List.append_cons, run?_append] at h
    obtain ⟨t, ht, hrest⟩ := Option.bind_eq_some_iff.mp h
    refine ⟨t, ht, fun horderly hquiet => isExact_of_awaited (awaited_of_run hrest horderly ?_) hquiet⟩
    rw [run?_append] at ht
    obtain ⟨u, -, hm⟩ := Option.bind_eq_some_iff.mp ht
    rw [run?_single] at hm
    exact awaited_of_counting (moves_of_step? hm) hcounting

/-- Two connections end at the same time. The task of the one that ended last is the first to publish. -/
def overtaking : List GaugeMove :=
  [.opening, .publish 0, .opening, .publish 0, .closing, .closing, .publish 1, .publish 0]

theorem exact_of_mended : ∃ g, new.run? (overtaking ++ .opening :: [.publish 0]) = some g ∧
    g.count = 1 ∧ g.isQuiet = true ∧ g.isExact = true := by
  obtain ⟨g, h, hcount, hquiet⟩ : ∃ g, new.run? (overtaking ++ .opening :: [.publish 0]) = some g ∧
      g.count = 1 ∧ g.isQuiet = true := ⟨_, rfl, rfl, rfl⟩
  obtain ⟨-, -, -, hsince⟩ := exact_unless_overtaken h
  obtain ⟨t, ht, hexact⟩ := hsince overtaking .opening [.publish 0] rfl rfl
  obtain rfl := Option.some.inj ht
  exact ⟨g, h, hcount, hquiet, hexact rfl hquiet⟩

/-- No connection is left and nothing to be published, and the gauge goes on to show one. -/
theorem stale_of_overtaking : ∃ g, new.run? overtaking = some g ∧
    g.isQuiet = true ∧ g.count = 0 ∧ g.gauge = some 1 ∧ g.isExact = false :=
  ⟨_, rfl, rfl, rfl, rfl, rfl⟩

/-! ## One task at a time -/

theorem isOrderly_append :
    g.isOrderly (past ++ rest) = (g.isOrderly past && (g.run? past).all (·.isOrderly rest)) := by
  induction past generalizing g with
  | nil => rfl
  | cons m past ih =>
    rw [List.cons_append, isOrderly, isOrderly, run?]
    cases g.step? m with
    | none => simp
    | some t => simp [ih, Bool.and_assoc]

/-- A gauge at rest shows what the ledger of one tracker shows. -/
structure Alike (g : SharedGauge) (c : Census) (l : ConnectionLedger) : Prop where
  tallied : ConnectionLedger.Tallied c l
  families : c.families = [0]
  active : l.active = [g.count]
  gauge : l.gauge = g.gauge
  held : g.held = g.count
  pending : g.pending = []

variable {c : Census} {l : ConnectionLedger} {s : ConnectionLedger.Step} {n : Nat}

theorem Alike.active_step (a : Alike g c l) (hfamilies : (c.step s).families = [0])
    (h : (l.step s).2.active[0]? = some n) : (l.step s).2.active = [n] := by
  have hlength : (l.step s).2.active.length = 1 := by rw [(a.tallied.step s).length_active, hfamilies]; rfl
  obtain ⟨x, hx⟩ := List.length_eq_one_iff.mp hlength
  rw [hx] at h ⊢
  exact congrArg (fun n => [n]) (Option.some.inj h)

theorem Alike.step (a : Alike g c l) (hfamilies : (c.step s).families = [0]) :
    ∃ moves g', g.run? moves = some g' ∧ g.isOrderly moves = true ∧ Alike g' (c.step s) (l.step s).2 := by
  have hrecounts := a.tallied.recounts s
  have hzero : 0 < c.families.length := by simp [a.families]
  have hactive : l.active[0]? = some g.count := by rw [a.active]; rfl
  cases hs : c.touched? s with
  | none =>
    obtain ⟨hgauge, hsame⟩ := hrecounts.untouched hs
    exact ⟨[], g, rfl, rfl, a.tallied.step s, hfamilies,
      a.active_step hfamilies ((hsame 0 hzero).trans hactive), hgauge.trans a.gauge, a.held, a.pending⟩
  | some t =>
    obtain ⟨m, hm, hgauge⟩ := hrecounts.gauge t hs
    obtain ⟨rfl, ht⟩ | ⟨number, rfl, hn⟩ := Census.touched?_eq_some_iff.mp hs
    · obtain rfl : t = 0 := Nat.lt_one_iff.mp (by simpa [a.families] using ht)
      obtain ⟨k, hk, hk'⟩ := hrecounts.opened 0 rfl hs 0 hzero rfl
      obtain rfl : g.count = k := Option.some.inj (hactive.symm.trans hk)
      obtain rfl : g.count + 1 = m := Option.some.inj (hk'.symm.trans hm)
      refine ⟨[.opening, .publish 0], ⟨g.count + 1, some (g.count + 1), g.held + 1, []⟩, ?_, ?_, a.tallied.step _,
        hfamilies, a.active_step hfamilies hm, hgauge, congrArg (· + 1) a.held, rfl⟩
      · simp [run?, step?, recount, publish, a.pending]
      · simp [isOrderly, GaugeMove.overtakes, step?, recount, a.pending]
    · have ht : t < c.families.length := a.tallied.enrolled _ (List.mem_of_getElem? hn)
      obtain rfl : t = 0 := Nat.lt_one_iff.mp (by simpa [a.families] using ht)
      obtain ⟨k, hk, hk'⟩ := hrecounts.ended number 0 rfl hs 0 hzero rfl
      have hcount : g.count = k + 1 := Option.some.inj (hactive.symm.trans hk)
      have hheld : g.held = k + 1 := a.held.trans hcount
      obtain rfl : k = m := Option.some.inj (hk'.symm.trans hm)
      refine ⟨[.closing, .publish 0], ⟨k, some k, k, []⟩, ?_, ?_, a.tallied.step _,
        hfamilies, a.active_step hfamilies hm, hgauge, rfl, rfl⟩
      · simp [run?, step?, recount, publish, a.pending, hheld, hcount]
      · simp [isOrderly, GaugeMove.overtakes, step?, recount, a.pending, hheld]

/-- What a ledger of one tracker does step by step, the gauge of tasks that come one after the other does. -/
theorem exists_run_of_ledger (steps : List ConnectionLedger.Step)
    (h : ∀ s ∈ steps, s = .track 0 ∨ ∃ number, s = .release number) :
    ∃ moves g, new.run? moves = some g ∧ new.isOrderly moves = true ∧ g.isQuiet = true ∧
      (ConnectionLedger.after steps).active = [g.count] ∧ (ConnectionLedger.after steps).gauge = g.gauge := by
  suffices go : ∀ g c l, Alike g c l → ∃ moves g', g.run? moves = some g' ∧ g.isOrderly moves = true ∧
      Alike g' (steps.foldl Census.step c) (steps.foldl (fun l s => (l.step s).2) l) by
    obtain ⟨moves, g, hrun, horderly, a⟩ := go new .new .new ⟨.new, rfl, rfl, rfl, rfl, rfl⟩
    exact ⟨moves, g, hrun, horderly, List.isEmpty_iff.mpr a.pending, a.active, a.gauge⟩
  induction steps with
  | nil => exact fun g c l a => ⟨[], g, rfl, rfl, a⟩
  | cons s steps ih =>
    intro g c l a
    rw [List.forall_mem_cons] at h
    have hfamilies : (c.step s).families = [0] := by
      rw [← a.families]
      obtain rfl | ⟨number, rfl⟩ := h.1
      · rw [Census.step]
        split <;> rfl
      · rw [Census.step]
        split <;> rfl
    obtain ⟨moves, t, ht, hfirst, a'⟩ := a.step hfamilies
    obtain ⟨further, g', hg', hrest, a''⟩ := ih h.2 t _ _ a'
    refine ⟨moves ++ further, g', ?_, ?_, a''⟩
    · rw [run?_append, ht, Option.bind_some, hg']
    · rw [isOrderly_append, hfirst, ht, Option.all_some, hrest, Bool.and_self]

end SharedGauge

end MetricsGateway
