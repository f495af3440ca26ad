import MetricsGateway.Connections.Ledger

/-!
A census of connections: who opened which, and which trackers are copies of one another. It keeps no counts, so
that to count it goes through all connections. What a step does to the number of open ones is said by
`openAt_opened`, `openAt_ended` and `openIn_of_untouched`.
-/

namespace MetricsGateway

/-- A connection by the tracker that opened it, and whether it is still open. -/
structure Enrolled where
  tracker : Nat
  isOpen : Bool

/-- The guard of a connection, when each tracker counts where it is said to. -/
def Enrolled.guard (trackers : List Nat) (place : Nat) (e : Enrolled) : ConnectionGuard :=
  ⟨place + 1, trackers.getD e.tracker 0, e.isOpen⟩

/-- For each tracker the first one of its family, which is itself unless it is a copy, and all connections in
the order of opening. -/
structure Census where
  families : List Nat
  connections : List Enrolled

namespace Census

def new : Census := ⟨[0], []⟩

def step (c : Census) : ConnectionLedger.Step → Census
  | .track tracker =>
    if tracker < c.families.length then { c with connections := c.connections ++ [⟨tracker, true⟩] } else c
  | .copy tracker =>
    match c.families[tracker]? with
    | some family => { c with families := c.families ++ [family] }
    | none => c
  | .add => { c with families := c.families ++ [c.families.length] }
  | .release place =>
    match c.connections[place]? with
    | some e => { c with connections := c.connections.set place { e with isOpen := false } }
    | none => c

def after (steps : List ConnectionLedger.Step) : Census := steps.foldl step new

/-- The open connections whose tracker is found at some place, when each tracker has its place. -/
def openAt (c : Census) (places : List Nat) (place : Option Nat) : Nat :=
  c.connections.countP fun e => e.isOpen && places[e.tracker]? = place

/-- The open connections that a tracker or one of its family opened. -/
def openIn (c : Census) (tracker : Nat) : Nat := c.openAt c.families c.families[tracker]?

/-- The tracker whose count a step changes. -/
def touched? (c : Census) : ConnectionLedger.Step → Option Nat
  | .track tracker => if tracker < c.families.length then some tracker else none
  | .release place =>
    match c.connections[place]? with
    | some ⟨tracker, true⟩ => some tracker
    | _ => none
  | _ => none

variable {c : Census} {places : List Nat} {place : Option Nat} {n t : Nat} {e : Enrolled}

theorem openAt_append (h : ∀ e ∈ c.connections, e.tracker < places.length) (more : List Nat) :
    c.openAt (places ++ more) place = c.openAt places place :=
  List.countP_congr fun e he => by rw [List.getElem?_append_left (h e he)]

theorem openAt_opened : openAt { c with connections := c.connections ++ [⟨t, true⟩] } places place =
    c.openAt places place + if places[t]? = place then 1 else 0 := by
  rw [openAt, List.countP_append, List.countP_singleton]
  simp [openAt]

theorem openAt_ended (hn : c.connections[n]? = some ⟨t, true⟩) :
    openAt { c with connections := c.connections.set n ⟨t, false⟩ } places place +
      (if places[t]? = place then 1 else 0) = c.openAt places place := by
  obtain ⟨hlt, hget⟩ := List.getElem?_eq_some_iff.mp hn
  rw [openAt, List.countP_set hlt, hget]
  by_cases hplace : places[t]? = place
  · have hpos : 0 < c.openAt places place :=
      List.countP_pos_iff.mpr ⟨_, List.mem_of_getElem? hn, by simp [hplace]⟩
    simp only [hplace, if_true, Bool.true_and, Bool.false_and, decide_true]
    exact Nat.sub_add_cancel hpos
  · simp [hplace, openAt]

theorem step_track (ht : t < c.families.length) :
    c.step (.track t) = { c with connections := c.connections ++ [⟨t, true⟩] } := if_pos ht

theorem step_release (hn : c.connections[n]? = some e) :
    c.step (.release n) = { c with connections := c.connections.set n { e with isOpen := false } } := by
  rw [step, hn]

theorem step_release_of_not_open (hn : ∀ t, c.connections[n]? ≠ some ⟨t, true⟩) : c.step (.release n) = c := by
  cases h : c.connections[n]? with
  | none => rw [step, h]
  | some e =>
    obtain ⟨t, isOpen⟩ := e
    cases isOpen with
    | true => exact absurd h (hn t)
    | false =>
      obtain ⟨hlt, hget⟩ := List.getElem?_eq_some_iff.mp h
      rw [step_release h, ← hget, List.set_getElem_self]

theorem touched?_eq_some_iff {s : ConnectionLedger.Step} : c.touched? s = some t ↔
    s = .track t ∧ t < c.families.length ∨ ∃ n, s = .release n ∧ c.connections[n]? = some ⟨t, true⟩ := by
  cases s with
  | track tracker =>
    simp only [touched?, Option.ite_none_right_eq_some, Option.some.injEq, ConnectionLedger.Step.track.injEq,
      reduceCtorEq, false_and, exists_false, or_false]
    exact ⟨fun ⟨hlt, heq⟩ => ⟨heq, heq ▸ hlt⟩, fun ⟨heq, hlt⟩ => ⟨heq ▸ hlt, heq⟩⟩
  | release place =>
    simp only [touched?, reduceCtorEq, false_and, false_or, ConnectionLedger.Step.release.injEq,
      exists_eq_left']
    split
    · next tracker hn => simp [hn]
    · next hother => exact iff_of_false nofun fun hn => hother t hn
  | copy | add => simp [touched?]

theorem not_open_of_untouched (h : c.touched? (.release n) = none) (t : Nat) :
    c.connections[n]? ≠ some ⟨t, true⟩ := fun hn => by
  rw [touched?_eq_some_iff.mpr (.inr ⟨n, rfl, hn⟩)] at h
  cases h

theorem length_families_le_step (c : Census) (s : ConnectionLedger.Step) :
    c.families.length ≤ (c.step s).families.length := by
  cases s with
  | track n | release n =>
    rw [step]
    split <;> exact Nat.le_refl _
  | copy tracker =>
    rw [step]
    split
    · exact (List.sublist_append_left _ _).length_le
    · exact Nat.le_refl _
  | add => exact (List.sublist_append_left _ _).length_le

/-- A step opens one connection at most. -/
theorem length_connections_step_le (c : Census) (s : ConnectionLedger.Step) :
    (c.step s).connections.length ≤ c.connections.length + 1 := by
  cases s with
  | track tracker =>
    rw [step]
    split
    · exact Nat.le_of_eq List.length_append
    · exact Nat.le_succ _
  | copy tracker =>
    rw [step]
    split <;> exact Nat.le_succ _
  | add => exact Nat.le_succ _
  | release place =>
    rw [step]
    split
    · exact Nat.le_succ_of_le (Nat.le_of_eq List.length_set)
    · exact Nat.le_succ _

theorem length_connections_after_le (steps : List ConnectionLedger.Step) :
    (after steps).connections.length ≤ steps.length := by
  suffices go : ∀ c : Census, (steps.foldl step c).connections.length ≤
      c.connections.length + steps.length from
    Nat.le_trans (go new) (Nat.le_of_eq (Nat.zero_add _))
  induction steps with
  | nil => exact fun c => Nat.le_refl _
  | cons s steps ih =>
    intro c
    have hstep := c.length_connections_step_le s
    have hrest := ih (c.step s)
    rw [List.foldl_cons, List.length_cons]
    omega

/-- A step that ends or opens no connection leaves the numbers of the open ones as they are. -/
theorem openIn_of_untouched {s : ConnectionLedger.Step} (h : ∀ e ∈ c.connections, e.tracker < c.families.length)
    (hs : c.touched? s = none) {a : Nat} (ha : a < c.families.length) : (c.step s).openIn a = c.openIn a := by
  cases s with
  | track tracker =>
    have hc : c.step (.track tracker) = c := if_neg fun hlt => by simp [touched?, hlt] at hs
    rw [hc]
  | copy tracker =>
    rw [step]
    split
    · rw [openIn, List.getElem?_append_left ha]
      exact openAt_append h _
    · rfl
  | add =>
    rw [step, openIn, List.getElem?_append_left ha]
    exact openAt_append h _
  | release place => rw [step_release_of_not_open (not_open_of_untouched hs)]

end Census

end MetricsGateway
