import MetricsGateway.Proofs.Server.Fits
import Mathlib.Algebra.BigOperators.Group.List.Basic

/-!
The permits of a run: what is free, what open connections hold and what the attempt to accept holds
add up to the limit, and each accepted client has one task, which ends once. Main statement: this is
so in every history, and nothing is left of it once the runs have ended.
-/

namespace MetricsGateway

namespace Serving

variable {v : Serving} {client c limit failures : Nat} {state : TaskState} {t : ConnectionTask}

/-- The permits that are lent are those of open connections and of the attempt under way. -/
structure Balanced (limit : Nat) (v : Serving) : Prop where
  distinct : v.Distinct
  size_eq : v.listener.permits.size = limit
  held_eq : v.listener.permits.held = v.running + v.listener.permitted.toNat

theorem balanced_new : Balanced limit ⟨.new limit, 0, []⟩ :=
  ⟨List.nodup_nil, rfl, rfl⟩

namespace Balanced

theorem free_add (b : v.Balanced limit) :
    v.listener.permits.free + v.running + v.listener.permitted.toNat = limit := by
  have hf := v.listener.permits.free_add_held
  rw [b.size_eq, b.held_eq] at hf
  omega

theorem acquire (b : v.Balanced limit) (h : v.listener.permitted = false)
    (hf : v.listener.permits.free ≠ 0) : Balanced limit { v with listener := v.listener.acquire } := by
  obtain ⟨ht, hh⟩ := Pool.take_of_free hf
  have ha : v.listener.acquire = ⟨v.listener.permits.take.2, true⟩ := by
    simp [Listener.acquire, h, ht]
  refine ⟨b.distinct, ?_, ?_⟩
  · simp [ha, b.size_eq]
  · have hb := b.held_eq
    rw [h, Bool.toNat_false, Nat.add_zero] at hb
    simp only [ha, hh, hb, Bool.toNat_true]
    rfl

/-- The connection takes over the permit of the attempt. -/
theorem accept (b : v.Balanced limit) (h : v.listener.permitted = true)
    (hnew : ∀ t ∈ v.tasks, t.client ≠ client) :
    Balanced limit ⟨v.listener.handOver, failures, v.tasks ++ [⟨client, .running⟩]⟩ := by
  refine ⟨b.distinct.accept hnew, b.size_eq, ?_⟩
  have hb := b.held_eq
  rw [h] at hb
  rw [running_accept]
  exact hb

/-- What is free after the attempt was given up. -/
theorem free_cancel (b : v.Balanced limit) :
    v.listener.cancel.permits.free = v.listener.permits.free + v.listener.permitted.toNat := by
  have hf := v.listener.permits.free_add_held
  have hb := b.held_eq
  cases h : v.listener.permitted with
  | false => simp [Listener.cancel, h]
  | true =>
    rw [h, Bool.toNat_true] at hb
    simp only [Listener.cancel, h, if_true, Pool.free, Pool.size_giveBack, Pool.held_giveBack,
      Bool.toNat_true] at hf ⊢
    omega

theorem cancel (b : v.Balanced limit) :
    Balanced limit { v with listener := v.listener.cancel, failures } := by
  have hb := b.held_eq
  cases h : v.listener.permitted with
  | false =>
    have hc : v.listener.cancel = v.listener := by simp [Listener.cancel, h]
    rw [hc]
    exact ⟨b.distinct, b.size_eq, b.held_eq⟩
  | true =>
    have hc : v.listener.cancel = ⟨v.listener.permits.giveBack 1, false⟩ := by
      simp [Listener.cancel, h]
    rw [hc]
    refine ⟨b.distinct, b.size_eq, ?_⟩
    rw [h, Bool.toNat_true] at hb
    simp only [Pool.held_giveBack, hb, Nat.add_sub_cancel, Bool.toNat_false, Nat.add_zero]
    rfl

theorem collect (b : v.Balanced limit) (ht : t ∈ v.tasks) (h : t.state ≠ .running) :
    Balanced limit { v with listener := v.listener.cancel, tasks := v.tasks.erase t } := by
  have hc : Balanced limit { v with listener := v.listener.cancel } := b.cancel
  refine ⟨b.distinct.erase t, hc.size_eq, ?_⟩
  rw [running_collect ht h]
  exact hc.held_eq

/-- A connection that ends gives its permit back. -/
theorem finish (b : v.Balanced limit) (h : v.isServing client = true) (hs : state ≠ .running) :
    Balanced limit (v.finish client state) := by
  have hr := b.distinct.running_finish h hs
  have hb := b.held_eq
  refine ⟨b.distinct.finish, b.size_eq, ?_⟩
  change v.listener.permits.held - 1 = _ + v.listener.permitted.toNat
  omega

theorem abort (b : v.Balanced limit) (h : v.isServing client = true) :
    Balanced limit (v.abort client) := by
  have hr := running_abort h
  have hb := b.held_eq
  refine ⟨b.distinct.erase _, b.size_eq, ?_⟩
  change v.listener.permits.held - 1 = _ + v.listener.permitted.toNat
  omega

/-- With no connection open and no attempt under way the permits are as they were at first. -/
theorem listener_eq_new (b : v.Balanced limit) (h : v.running = 0)
    (hp : v.listener.permitted = false) : v.listener = .new limit := by
  obtain ⟨hd, hs, hh⟩ := b
  obtain ⟨⟨⟨size, held, _⟩, permitted⟩, failures, tasks⟩ := v
  simp only at hs hh hp
  subst hs hp
  rw [h] at hh
  subst hh
  rfl

end Balanced

end Serving

namespace ServerRun

/-- What the run serves with, from when it listens until it ends. -/
def serving? : ServerRun → Option Serving
  | .accepting v | .pausing v _ | .draining v _ _ | .aborting v _ => some v
  | _ => none

/-- The clients that the run serves. -/
def clients (r : ServerRun) : List Nat := (r.serving?.map Serving.clients).getD []

variable {r : ServerRun} {v : Serving} {nanos : Nat}

theorem clients_eq (h : r.serving? = some v) : r.clients = v.clients := by
  rw [clients, h]
  rfl

theorem clients_eq_nil (h : r.serving? = none) : r.clients = [] := by
  rw [clients, h]
  rfl

@[simp] theorem clients_called : ServerRun.called.clients = [] := rfl

@[simp] theorem serving?_pass : (r.pass nanos).serving? = r.serving? := by
  cases r <;> rfl

@[simp] theorem clients_pass : (r.pass nanos).clients = r.clients := by
  cases r <;> rfl

/-- What the run serves with is balanced, and only while it accepts is an attempt under way. -/
def Balanced (limit : Nat) (r : ServerRun) : Prop :=
  ∀ v, r.serving? = some v → v.Balanced limit ∧ (v.listener.permitted = true → r = .accepting v)

theorem Balanced.nodup_clients {limit : Nat} (b : r.Balanced limit) : r.clients.Nodup := by
  cases h : r.serving? with
  | none => simp [clients_eq_nil h]
  | some v =>
    rw [clients_eq h]
    exact (b v h).1.distinct.nodup_clients

theorem Balanced.pass {limit : Nat} (b : r.Balanced limit) : (r.pass nanos).Balanced limit := by
  intro v hv
  rw [serving?_pass] at hv
  refine ⟨(b v hv).1, fun hp => ?_⟩
  rw [(b v hv).2 hp]
  rfl

end ServerRun

namespace RunMove

/-- The client that a move accepts. -/
def accepted? : RunMove → Option Nat
  | .accept client _ => some client
  | _ => none

/-- The client whose task a move ends. -/
def ended? : RunMove → Option Nat
  | .finish client _ | .abort client => some client
  | _ => none

/-- The move gives up an attempt to accept. -/
def givesUp : RunMove → Bool
  | .failAccept _ _ | .collect | .stop => true
  | _ => false

end RunMove

namespace ServerEvent

/-- The move that an event makes a run take. -/
def move? (i : Nat) : ServerEvent → Option RunMove
  | .run j m => if j = i then some m else none
  | _ => none

/-- The clients that a run accepts in the course of a history. -/
def accepted (i : Nat) (events : List ServerEvent) : List Nat :=
  (events.filterMap (move? i)).filterMap RunMove.accepted?

/-- The clients whose tasks end in the course of a history. -/
def ended (i : Nat) (events : List ServerEvent) : List Nat :=
  (events.filterMap (move? i)).filterMap RunMove.ended?

variable {i : Nat} {events : List ServerEvent} {e : ServerEvent}

theorem accepted_concat : accepted i (events ++ [e]) =
    accepted i events ++ ((e.move? i).bind RunMove.accepted?).toList := by
  simp only [accepted, List.filterMap_append, List.filterMap_cons, List.filterMap_nil]
  cases e.move? i with
  | none => rfl
  | some m => cases h : m.accepted? <;> simp [h]

theorem ended_concat : ended i (events ++ [e]) =
    ended i events ++ ((e.move? i).bind RunMove.ended?).toList := by
  simp only [ended, List.filterMap_append, List.filterMap_cons, List.filterMap_nil]
  cases e.move? i with
  | none => rfl
  | some m => cases h : m.ended? <;> simp [h]

/-- A run that has not moved has no books yet. -/
theorem filterMap_move?_eq_nil (h : ∀ m, .run i m ∉ events) : events.filterMap (move? i) = [] := by
  refine List.filterMap_eq_nil_iff.mpr fun e he => ?_
  unfold move?
  split
  · next j m =>
    refine if_neg fun hij => ?_
    subst j
    exact h m he
  · rfl

end ServerEvent

namespace Server

variable {s s' : Server} {r r' : ServerRun} {m : RunMove} {o : Observed} {v : Serving}
  {options : ServerOptions} {events : List ServerEvent} {said : List Observed} {e : ServerEvent}
  {i limit : Nat}

theorem Moves.balanced (hm : s.Moves r m o r' s') (b : r.Balanced s.options.maxConnections) :
    r'.Balanced s.options.maxConnections := by
  have hc (v : Serving) : v.listener.cancel.permitted = false := by
    cases h : v.listener.permitted <;> simp [Listener.cancel, h]
  cases hm with
  | refuse | skip | begin | bindFail | bindPanic | drained | closeFailed | closeExpired =>
    rintro _ ⟨⟩
  | listen a =>
    rintro _ ⟨⟩
    exact ⟨Serving.balanced_new, fun _ => rfl⟩
  | acquire v h hf =>
    rintro _ ⟨⟩
    exact ⟨(b v rfl).1.acquire h hf, fun _ => rfl⟩
  | accept v client peer h hnew =>
    rintro _ ⟨⟩
    exact ⟨(b v rfl).1.accept h hnew, fun _ => rfl⟩
  | retry v | fail v | stopAccepting v | stopPausing v =>
    rintro _ ⟨⟩
    exact ⟨(b v rfl).1.cancel, fun hp => by simp [hc] at hp⟩
  | collect v t ht h =>
    rintro _ ⟨⟩
    exact ⟨(b v rfl).1.collect ht h, fun _ => rfl⟩
  | resume v =>
    rintro _ ⟨⟩
    exact ⟨(b v rfl).1, fun _ => rfl⟩
  | expire v =>
    rintro _ ⟨⟩
    exact ⟨(b v rfl).1, fun hp => by cases (b v rfl).2 hp⟩
  | finishAccepting v client crashed h =>
    rintro _ ⟨⟩
    exact ⟨(b v rfl).1.finish h (by cases crashed <;> simp), fun _ => rfl⟩
  | finishPausing v left client crashed h | finishDraining v inFlight left client crashed h =>
    rintro _ ⟨⟩
    exact ⟨(b v rfl).1.finish h (by cases crashed <;> simp), fun hp => by cases (b v rfl).2 hp⟩
  | abort v why client h =>
    rintro _ ⟨⟩
    exact ⟨(b v rfl).1.abort h, fun hp => by cases (b v rfl).2 hp⟩

/-- An attempt that fails or is given up gives its permit back. -/
theorem Moves.free_of_givesUp (hm : s.Moves r m o r' s') (hg : m.givesUp = true)
    (hv : r.serving? = some v) (b : v.Balanced limit) :
    ∃ v', r'.serving? = some v' ∧ v'.listener.permitted = false ∧
      v'.listener.permits.free = v.listener.permits.free + v.listener.permitted.toNat := by
  have hp : v.listener.cancel.permitted = false := by
    cases h : v.listener.permitted <;> simp [Listener.cancel, h]
  cases hm with
  | retry | fail | collect | stopAccepting | stopPausing =>
    cases hv
    exact ⟨_, rfl, hp, b.free_cancel⟩
  | _ => cases hg

/-- A run that ends serves nobody any more and has all its permits back. -/
theorem Moves.listener_of_isEnded (hm : s.Moves r m o r' s') (he : r'.isEnded = true)
    (hv : r.serving? = some v) (b : r.Balanced limit) :
    v.clients = [] ∧ v.listener = .new limit := by
  have hrunning : v.running = 0 := by
    cases hm with
    | drained v inFlight left h | closeFailed v fault h | closeExpired v report h =>
      cases hv
      exact h
    | refuse | skip | bindFail | bindPanic => cases hv
    | _ => cases he
  refine ⟨List.length_eq_zero_iff.mp (Serving.length_clients.trans hrunning), ?_⟩
  refine (b v hv).1.listener_eq_new hrunning (Bool.eq_false_iff.mpr fun hp => ?_)
  cases (b v hv).2 hp
  cases hm <;> cases he

/-- The clients that a run serves, before and after a move. -/
theorem Moves.clients_perm (hm : s.Moves r m o r' s') (b : r.Balanced limit) :
    (r'.clients ++ m.ended?.toList).Perm (r.clients ++ m.accepted?.toList) := by
  -- the client whose task ends is taken out of the list
  have hout (v : Serving) (hd : v.Distinct) {client : Nat} (h : v.isServing client = true) :
      (v.clients.filter (· != client) ++ [client]).Perm (v.clients ++ []) := by
    rw [← hd.nodup_clients.erase_eq_filter, List.append_nil]
    exact (List.perm_append_singleton client _).trans
      (List.perm_cons_erase (Serving.mem_clients.mpr h)).symm
  have hnone (v : Serving) (h : v.running = 0) : v.clients = [] :=
    List.length_eq_zero_iff.mp (Serving.length_clients.trans h)
  cases hm with
  | accept v client peer =>
    have hc : (ServerRun.accepting ⟨v.listener.handOver, 0, v.tasks ++ [⟨client, .running⟩]⟩).clients
        = v.clients ++ [client] := Serving.clients_accept
    rw [hc]
    exact List.Perm.of_eq (List.append_nil _)
  | collect v t ht h =>
    exact List.Perm.of_eq (congrArg (· ++ []) ((b v rfl).1.distinct.clients_collect h))
  | finishAccepting v client crashed h | finishPausing v left client crashed h
  | finishDraining v inFlight left client crashed h =>
    have hne : (if crashed then TaskState.crashed else .done) ≠ .running := by
      cases crashed <;> simp
    have ho := hout v (b v rfl).1.distinct h
    rwa [← Serving.clients_finish hne] at ho
  | abort v why client h =>
    have hd := (b v rfl).1.distinct
    have ho := hout v hd h
    rwa [← hd.clients_abort] at ho
  | drained v inFlight left h | closeFailed v fault h | closeExpired v report h =>
    exact List.Perm.of_eq (congrArg (· ++ []) (hnone v h).symm)
  | _ => exact List.Perm.refl _

/-- The open connections of the server, before and after a move. -/
theorem Moves.active_eq (hm : s.Moves r m o r' s') (hle : r.clients.length ≤ s.active) :
    s'.active + m.ended?.toList.length = s.active + m.accepted?.toList.length := by
  -- a client whose task ends is one of those that are counted
  have hpos (v : Serving) {client : Nat} (h : v.isServing client = true)
      (hle : v.clients.length ≤ s.active) : s.active - 1 + 1 = s.active := by
    have hp := List.length_pos_of_mem (Serving.mem_clients.mpr h)
    omega
  cases hm with
  | finishAccepting v client crashed h | finishPausing v left client crashed h
  | finishDraining v inFlight left client crashed h | abort v why client h => exact hpos v h hle
  | _ => rfl

theorem length_flatMap_set {α β : Type} {l : List α} {f : α → List β} {a b : α}
    (h : l[i]? = some a) :
    ((l.set i b).flatMap f).length + (f a).length = (l.flatMap f).length + (f b).length := by
  obtain ⟨hi, rfl⟩ := List.getElem?_eq_some_iff.mp h
  have hl : l.flatMap f = (l.take i ++ l[i] :: l.drop (i + 1)).flatMap f := by simp
  rw [hl, List.set_eq_take_append_cons_drop, if_pos hi]
  simp only [List.flatMap_append, List.flatMap_cons, List.length_append]
  omega

/-- What has happened to a server and its books agree: each run that serves is balanced, all open
connections are counted, and each client that a run has accepted is served or was let go. -/
structure Balance (options : ServerOptions) (events : List ServerEvent) (s : Server) : Prop where
  options_eq : s.options = options
  moved : ∀ i m, .run i m ∈ events → i < s.runs.length
  balanced : ∀ (i : Nat) r, s.runs[i]? = some r → r.Balanced options.maxConnections
  active_eq : s.active = (s.runs.flatMap ServerRun.clients).length
  served : ∀ (i : Nat) r, s.runs[i]? = some r →
    (ServerEvent.accepted i events).Perm (ServerEvent.ended i events ++ r.clients)

namespace Balance

theorem new (options : ServerOptions) : Balance options [] (Server.new options) := by
  constructor <;> simp [Server.new]

theorem clients_le_active (b : Balance options events s) (hr : s.runs[i]? = some r) :
    r.clients.length ≤ s.active := by
  have hs := length_flatMap_set (f := ServerRun.clients) (b := .called) hr
  rw [← b.active_eq, ServerRun.clients_called, List.length_nil] at hs
  omega

/-- An event that is no move of a run changes the books of none. -/
theorem served_same (b : Balance options events s) (he : ∀ i, e.move? i = none) (j : Nat)
    (q : ServerRun) (hq : s.runs[j]? = some q) (hc : r.clients = q.clients) :
    (ServerEvent.accepted j (events ++ [e])).Perm
      (ServerEvent.ended j (events ++ [e]) ++ r.clients) := by
  rw [ServerEvent.accepted_concat, ServerEvent.ended_concat, he, hc]
  simpa using b.served j q hq

theorem moved_same (b : Balance options events s) (he : ∀ i, e.move? i = none) (j : Nat)
    (m : RunMove) (h : .run j m ∈ events ++ [e]) : j < s.runs.length := by
  obtain h | h := List.mem_append.mp h
  · exact b.moved j m h
  · rw [← List.mem_singleton.mp h] at he
    simp [ServerEvent.move?] at he

theorem call (b : Balance options events s) :
    Balance options (events ++ [.call]) { s with runs := s.runs ++ [.called] } where
  options_eq := b.options_eq
  moved j m h := by
    have hj := b.moved_same (fun _ => rfl) j m h
    simp only [List.length_append, List.length_singleton]
    omega
  balanced j q hq := by
    obtain hq | ⟨-, rfl⟩ := getElem?_called hq
    · exact b.balanced j q hq
    · rintro _ ⟨⟩
  active_eq := by
    rw [List.flatMap_append, List.length_append, ← b.active_eq]
    rfl
  served j q hq := by
    obtain hq | ⟨hj, rfl⟩ := getElem?_called hq
    · exact b.served_same (fun _ => rfl) j q hq rfl
    · have hn : ∀ m, .run j m ∉ events ++ [.call] := by
        intro m hm
        have hlt := b.moved_same (fun _ => rfl) j m hm
        omega
      rw [ServerEvent.accepted, ServerEvent.ended, ServerEvent.filterMap_move?_eq_nil hn]
      exact List.Perm.refl []

theorem pass (b : Balance options events s) (nanos : Nat) :
    Balance options (events ++ [.pass nanos])
      { s with runs := s.runs.map (ServerRun.pass nanos) } where
  options_eq := b.options_eq
  moved j m h := by simpa using b.moved_same (fun _ => rfl) j m h
  balanced j q hq := by
    obtain ⟨r, hr, rfl⟩ := getElem?_passed hq
    exact (b.balanced j r hr).pass
  active_eq := by
    rw [List.flatMap_map]
    simpa using b.active_eq
  served j q hq := by
    obtain ⟨r, hr, rfl⟩ := getElem?_passed hq
    exact b.served_same (fun _ => rfl) j r hr ServerRun.clients_pass

theorem run (b : Balance options events s) (hr : s.runs[i]? = some r)
    (hm : s.Moves r m o r' s') :
    Balance options (events ++ [.run i m]) { s' with runs := s.runs.set i r' } where
  options_eq := hm.options_eq.trans b.options_eq
  moved j n h := by
    rw [List.length_set]
    obtain h | h := List.mem_append.mp h
    · exact b.moved j n h
    · cases List.mem_singleton.mp h
      exact (List.getElem?_eq_some_iff.mp hr).1
  balanced j q hq := by
    obtain ⟨rfl, rfl⟩ | ⟨-, hq⟩ := getElem?_moved hq
    · have hb := hm.balanced (b.options_eq ▸ b.balanced i r hr)
      rwa [b.options_eq] at hb
    · exact b.balanced j q hq
  active_eq := by
    have hl := (hm.clients_perm (b.balanced i r hr)).length_eq
    have ha := hm.active_eq (b.clients_le_active hr)
    have hs := length_flatMap_set (f := ServerRun.clients) (b := r') hr
    rw [← b.active_eq] at hs
    simp only [List.length_append] at hl
    change s'.active = ((s.runs.set i r').flatMap ServerRun.clients).length
    omega
  served j q hq := by
    rw [ServerEvent.accepted_concat, ServerEvent.ended_concat]
    obtain ⟨rfl, rfl⟩ | ⟨hij, hq⟩ := getElem?_moved hq
    · have hp := hm.clients_perm (b.balanced i r hr)
      have hs := b.served i r hr
      simp only [ServerEvent.move?, if_true, Option.bind_some]
      calc (ServerEvent.accepted i events ++ m.accepted?.toList).Perm
            ((ServerEvent.ended i events ++ r.clients) ++ m.accepted?.toList) := hs.append_right _
        _ = ServerEvent.ended i events ++ (r.clients ++ m.accepted?.toList) := by
            rw [List.append_assoc]
        List.Perm _ (ServerEvent.ended i events ++ (q.clients ++ m.ended?.toList)) :=
            hp.symm.append_left _
        List.Perm _ (ServerEvent.ended i events ++ (m.ended?.toList ++ q.clients)) :=
            List.perm_append_comm.append_left _
        _ = _ := by rw [List.append_assoc]
    · simpa [ServerEvent.move?, hij] using b.served j q hq

theorem step (b : Balance options events s) (hs : s.Steps e o s') :
    Balance options (events ++ [e]) s' := by
  cases hs with
  | call => exact b.call
  | interrupt cause =>
    exact ⟨b.options_eq, b.moved_same fun _ => rfl, b.balanced, b.active_eq,
      fun j q hq => b.served_same (fun _ => rfl) j q hq rfl⟩
  | pass nanos => exact b.pass nanos
  | run i r m o r' s' hr hm => exact b.run hr hm

end Balance

theorem balance_of_run (h : (new options).run? events = some (said, s)) :
    Balance options events s :=
  History.run?_induction (P := fun events _ s => Balance options events s) (Balance.new options)
    (fun _ _ _ _ _ _ _ b hs => b.step (steps_of_step? hs)) h

/-- Where no other run serves, all open connections are those of one run. -/
theorem Balance.active_of_alone (b : Balance options events s) (hr : s.runs[i]? = some r)
    (halone : ∀ (j : Nat) q, s.runs[j]? = some q → j ≠ i → q.serving? = none) :
    s.active = r.clients.length := by
  have hs := length_flatMap_set (f := ServerRun.clients) (b := .called) hr
  have hnil : (s.runs.set i .called).flatMap ServerRun.clients = [] := by
    refine List.flatMap_eq_nil_iff.mpr fun q hq => ?_
    obtain ⟨j, hj⟩ := List.getElem?_of_mem hq
    obtain ⟨-, rfl⟩ | ⟨hij, hj⟩ := getElem?_moved hj
    · rfl
    · exact ServerRun.clients_eq_nil (halone j q hj (Ne.symm hij))
  rw [← b.active_eq, hnil, ServerRun.clients_called, List.length_nil] at hs
  omega

/-- Whatever happens to a server: each client that a run has accepted has one task, which runs or has
ended, and ends once. While a run serves, its free permits, those of its connections and that of the
attempt past its acquisition add up to the limit; an attempt that fails or is given up gives its permit
back; and a run that ends, in whatever way, serves nobody any more and has all permits back. All open
connections are those that some run serves, so that none is left when no run serves. -/
theorem permits_add_up (h : (new options).run? events = some (said, s)) :
    (∀ (i : Nat) r, s.runs[i]? = some r → r.clients.Nodup ∧
      (ServerEvent.accepted i events).Perm (ServerEvent.ended i events ++ r.clients)) ∧
    (∀ (i : Nat) r v, s.runs[i]? = some r → r.serving? = some v →
      v.listener.permits.free + v.clients.length + v.listener.permitted.toNat =
        options.maxConnections ∧
      v.clients.length ≤ options.maxConnections ∧
      ((∀ (j : Nat) q, s.runs[j]? = some q → j ≠ i → q.serving? = none) →
        s.active = v.clients.length) ∧
      ∀ m o s', s.step? (.run i m) = some (o, s') →
        (m.givesUp = true → ∃ r' v', s'.runs[i]? = some r' ∧ r'.serving? = some v' ∧
          v'.listener.permitted = false ∧
          v'.listener.permits.free = v.listener.permits.free + v.listener.permitted.toNat) ∧
        ∀ result, s'.runs[i]? = some (.ended result) →
          v.clients = [] ∧ v.listener = .new options.maxConnections) ∧
    s.active = (s.runs.flatMap ServerRun.clients).length ∧
    ((∀ r ∈ s.runs, r.serving? = none) → s.active = 0) := by
  have b := balance_of_run h
  refine ⟨fun i r hr => ⟨(b.balanced i r hr).nodup_clients, b.served i r hr⟩,
    fun i r v hr hv => ?_, b.active_eq, fun hnone => ?_⟩
  · have hb := b.balanced i r hr
    have hfree := (hb v hv).1.free_add
    rw [← Serving.length_clients] at hfree
    refine ⟨hfree, by omega, fun halone => ?_, fun m o s' hs => ?_⟩
    · rw [b.active_of_alone hr halone, ServerRun.clients_eq hv]
    · cases steps_of_step? hs with
      | run i q m o r' s' hq hm =>
        cases hr.symm.trans hq
        have hr' : (s.runs.set i r')[i]? = some r' :=
          List.getElem?_set_self (List.getElem?_eq_some_iff.mp hr).1
        refine ⟨fun hg => ?_, fun result he => ?_⟩
        · obtain ⟨v', hv', hp, hf⟩ := hm.free_of_givesUp hg hv (hb v hv).1
          exact ⟨r', v', hr', hv', hp, hf⟩
        · cases hr'.symm.trans he
          exact hm.listener_of_isEnded rfl hv hb
  · rw [b.active_eq, List.flatMap_eq_nil_iff.mpr fun r hr => ServerRun.clients_eq_nil (hnone r hr)]
    rfl

/-- A connection is open, and the next attempt to accept is past its acquisition. -/
def contended : List ServerEvent :=
  [.call, .run 0 .begin, .run 0 (.bind (.ok "127.0.0.1:9090")), .run 0 .acquire,
    .run 0 (.accept 7 "127.0.0.1:40000"), .run 0 .acquire]

theorem permits_of_contended :
    ∃ said s v, (new ⟨"127.0.0.1:9090", 2, .fiveSeconds⟩).run? contended = some (said, s) ∧
      s.runs[0]? = some (.accepting v) ∧ v.clients = [7] ∧ v.listener.permitted = true ∧
      v.listener.permits.free + 1 + 1 = 2 := by
  obtain ⟨said, s, v, h, hr, hc, hp⟩ : ∃ said s v,
      (new ⟨"127.0.0.1:9090", 2, .fiveSeconds⟩).run? contended = some (said, s) ∧
        s.runs[0]? = some (.accepting v) ∧ v.clients = [7] ∧ v.listener.permitted = true :=
    ⟨_, _, _, rfl, rfl, rfl, rfl⟩
  have hadd := ((permits_add_up h).2.1 0 _ v hr rfl).1
  rw [hc, hp] at hadd
  exact ⟨said, s, v, h, hr, hc, hp, hadd⟩

end Server

end MetricsGateway
