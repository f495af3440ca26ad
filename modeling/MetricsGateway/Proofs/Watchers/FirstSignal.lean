import Mathlib.Data.List.TakeWhile
import MetricsGateway.Actor.Watching
import MetricsGateway.Proofs.Watchers.Moves

/-!
Which signal a watcher ends with. Main statement: in every order of events, a run that ends with a signal
ends with the first one that was raised since it subscribed, or, where more were raised than are kept before
one of them was forwarded, with the oldest that was kept. A run ends without a signal only when its watcher
was interrupted, and however many signals are raised, one of them reaches it.
-/

namespace MetricsGateway

namespace WatchEvent

variable {events : List WatchEvent} {e : WatchEvent} {i n : Nat}

def raised : WatchEvent → List Signal
  | step (.raise signals) => signals
  | _ => []

def raisedIn (events : List WatchEvent) : List Signal := events.flatMap raised

/-- What happens from the moment when a run subscribes. -/
def since (i : Nat) (events : List WatchEvent) : List WatchEvent :=
  events.dropWhile (· ≠ .move i .subscribe)

/-- What is raised for a run before the first signal is forwarded to it. -/
def early (i : Nat) (events : List WatchEvent) : List Signal :=
  raisedIn ((since i events).takeWhile (· ≠ .move i .forward))

def Interrupted (n : Nat) (events : List WatchEvent) : Prop :=
  ∃ cause, .step (.interrupt n cause) ∈ events

theorem Interrupted.concat (h : Interrupted n events) (e : WatchEvent) : Interrupted n (events ++ [e]) :=
  h.imp fun _ hmem => List.mem_append_left _ hmem

theorem raisedIn_concat (events : List WatchEvent) (e : WatchEvent) :
    raisedIn (events ++ [e]) = raisedIn events ++ e.raised := by
  rw [raisedIn, List.flatMap_append, List.flatMap_singleton]
  rfl

/-! ## Since a run subscribed -/

theorem since_eq_nil (h : .move i .subscribe ∉ events) : since i events = [] :=
  List.dropWhile_eq_nil_iff.mpr fun e he => decide_eq_true fun (heq : e = _) => h (heq ▸ he)

theorem since_ne_nil (h : .move i .subscribe ∈ events) : since i events ≠ [] := fun hnil =>
  of_decide_eq_true (List.dropWhile_eq_nil_iff.mp hnil _ h) rfl

theorem since_concat (h : .move i .subscribe ∈ events) (e : WatchEvent) :
    since i (events ++ [e]) = since i events ++ [e] := by
  rw [since, List.dropWhile_append, if_neg]
  · rfl
  · rw [List.isEmpty_iff]
    exact since_ne_nil h

theorem since_subscribe (h : .move i .subscribe ∉ events) :
    since i (events ++ [.move i .subscribe]) = [.move i .subscribe] := by
  have hnil : (events.dropWhile (· ≠ .move i .subscribe)).isEmpty = true :=
    List.isEmpty_iff.mpr (since_eq_nil h)
  rw [since, List.dropWhile_append, if_pos hnil, List.dropWhile_cons_of_neg (by simp)]

/-- What is raised later is not early any more. -/
theorem early_concat (hs : .move i .subscribe ∈ events) (hf : .move i .forward ∈ since i events)
    (e : WatchEvent) : early i (events ++ [e]) = early i events := by
  have hlt : ((since i events).takeWhile (· ≠ .move i .forward)).length ≠ (since i events).length := by
    intro hlen
    have hall := List.takeWhile_eq_self_iff.mp ((List.takeWhile_prefix _).eq_of_length hlen)
    exact of_decide_eq_true (hall _ hf) rfl
  rw [early, since_concat hs, List.takeWhile_append, if_neg hlt]
  rfl

theorem early_forward (hs : .move i .subscribe ∈ events) (hf : .move i .forward ∉ since i events) :
    early i (events ++ [.move i .forward]) = raisedIn (since i events) := by
  have hself : (since i events).takeWhile (· ≠ .move i .forward) = since i events :=
    List.takeWhile_eq_self_iff.mpr fun e he => decide_eq_true fun (heq : e = _) => hf (heq ▸ he)
  rw [early, since_concat hs, List.takeWhile_append, if_pos (congrArg List.length hself),
    List.takeWhile_cons_of_neg (by simp), List.append_nil]

/-- What is early is the first of what is raised. -/
theorem early_isPrefix (i : Nat) (events : List WatchEvent) :
    early i events <+: raisedIn (since i events) := by
  obtain ⟨rest, hrest⟩ := List.takeWhile_prefix (l := since i events) (· ≠ .move i .forward)
  exact ⟨raisedIn rest, by rw [early, raisedIn, raisedIn, raisedIn, ← List.flatMap_append, hrest]⟩

end WatchEvent

namespace Watchers

open WatchEvent

variable {w w' : Watchers} {events : List WatchEvent} {reports : List (List LogRecord)} {e : WatchEvent}
  {signals : List Signal} {i n : Nat} {r r' : WatchRun} {p : WatchPhase} {m : WatchMove}
  {said : List LogRecord}

/-! ## What is kept -/

theorem kept_eq_self (h : signals.length ≤ backlogLimit) : kept signals = signals := by
  rw [kept, Nat.sub_eq_zero_of_le h, List.drop_zero]

theorem length_kept_le (signals : List Signal) : (kept signals).length ≤ backlogLimit := by
  rw [kept, List.length_drop]
  omega

theorem kept_eq_nil_iff : kept signals = [] ↔ signals = [] := by
  rw [kept, List.drop_eq_nil_iff, ← List.length_eq_zero_iff, backlogLimit]
  omega

/-- What is given up early would be given up later. -/
theorem kept_kept_append (signals more : List Signal) :
    kept (kept signals ++ more) = kept (signals ++ more) := by
  have hle : signals.length - backlogLimit ≤ signals.length := Nat.sub_le _ _
  have hdrop : kept signals ++ more = (signals ++ more).drop (signals.length - backlogLimit) :=
    (List.drop_append_of_le_length hle).symm
  rw [hdrop, kept, kept, List.drop_drop, List.length_drop, List.length_append]
  congr 1
  omega

theorem head?_kept (signals : List Signal) :
    (kept signals).head? = signals[signals.length - backlogLimit]? := List.head?_drop

/-- The backlog after some signals are raised one after the other. -/
def backlogAfter (backlog signals : List Signal) : List Signal :=
  signals.foldl (fun l s => kept (l ++ [s])) backlog

theorem backlogAfter_kept (past signals : List Signal) :
    backlogAfter (kept past) signals = kept (past ++ signals) := by
  induction signals generalizing past with
  | nil => exact (congrArg kept (List.append_nil past)).symm
  | cons s signals ih =>
    rw [backlogAfter, List.foldl_cons, kept_kept_append, List.append_cons past s signals]
    exact ih (past ++ [s])

theorem backlogAfter_eq {backlog : List Signal} (h : backlog.length ≤ backlogLimit) (signals : List Signal) :
    backlogAfter backlog signals = kept (backlog ++ signals) := by
  rw [← backlogAfter_kept, kept_eq_self h]

/-! ## What a run hears -/

def hearPhase (signals : List Signal) : WatchPhase → WatchPhase
  | .waiting backlog buffer => .waiting (backlogAfter backlog signals) buffer
  | p => p

def hearAll (signals : List Signal) (r : WatchRun) : WatchRun := { r with phase := hearPhase signals r.phase }

theorem hearAll_nil (r : WatchRun) : hearAll [] r = r := by
  obtain ⟨n, b, p⟩ := r
  cases p <;> rfl

theorem hearAll_hear (s : Signal) (signals : List Signal) (r : WatchRun) :
    hearAll signals (hear s r) = hearAll (s :: signals) r := by
  obtain ⟨n, b, p⟩ := r
  cases p <;> rfl

theorem raiseAll_snd (w : Watchers) (signals : List Signal) :
    (w.raiseAll signals).2 = { w with runs := w.runs.map (hearAll signals) } := by
  induction signals generalizing w with
  | nil => rw [funext hearAll_nil, List.map_id']; rfl
  | cons s signals ih =>
    refine (ih (w.raise s).2).trans ?_
    rw [Watchers.raise, List.map_map, ← funext (hearAll_hear s signals)]
    rfl

/-! ## What is known of a run -/

/-- What the events so far say about a run, by the phase in which it is. -/
inductive Known (events : List WatchEvent) (i n : Nat) : WatchPhase → Prop where
  | spawned (h : .move i .subscribe ∉ events) : Known events i n .spawned
  | refused (fault : SystemFault) : Known events i n (.refused fault)
  | unread (backlog : List Signal) (hs : .move i .subscribe ∈ events)
      (hf : .move i .forward ∉ since i events) (hb : backlog = kept (raisedIn (since i events))) :
      Known events i n (.waiting backlog none)
  | filled (backlog : List Signal) (s : Signal) (hs : .move i .subscribe ∈ events)
      (hf : .move i .forward ∈ since i events) (hfirst : (kept (early i events)).head? = some s)
      (hlen : backlog.length ≤ backlogLimit) : Known events i n (.waiting backlog (some s))
  | got (s : Signal) (hs : .move i .subscribe ∈ events) (hf : .move i .forward ∈ since i events)
      (hfirst : (kept (early i events)).head? = some s) : Known events i n (.ended (some s))
  | stopped (_ : Interrupted n events) : Known events i n (.ended none)

namespace Known

theorem length_le {backlog : List Signal} {buffer : Option Signal}
    (k : Known events i n (.waiting backlog buffer)) : backlog.length ≤ backlogLimit := by
  cases k with
  | unread _ hs hf hb => exact hb ▸ length_kept_le _
  | filled _ _ hs hf hfirst hlen => exact hlen

/-- Whatever happens to others, a run hears no more of it than what is raised. -/
theorem hear (k : Known events i n p) (hs : e ≠ .move i .subscribe) (hf : e ≠ .move i .forward) :
    Known (events ++ [e]) i n (hearPhase e.raised p) := by
  have hmem {x : WatchEvent} {l : List WatchEvent} (h : x ∈ l) : x ∈ l ++ [e] := List.mem_append_left _ h
  have hnot {x : WatchEvent} {l : List WatchEvent} (hne : e ≠ x) (h : x ∉ l) : x ∉ l ++ [e] := by
    rw [List.mem_append, List.mem_singleton, not_or]
    exact ⟨h, hne.symm⟩
  cases k with
  | spawned h => exact .spawned (hnot hs h)
  | refused fault => exact .refused fault
  | unread backlog hsub hfor hb =>
    refine .unread _ (hmem hsub) ?_ ?_
    · rw [since_concat hsub]
      exact hnot hf hfor
    · rw [hb, backlogAfter_kept, since_concat hsub, raisedIn_concat]
  | filled backlog s hsub hfor hfirst hlen =>
    refine .filled _ s (hmem hsub) ?_ ?_ ?_
    · rw [since_concat hsub]
      exact hmem hfor
    · rw [early_concat hsub hfor, hfirst]
    · rw [backlogAfter_eq hlen]
      exact length_kept_le _
  | got s hsub hfor hfirst =>
    refine .got s (hmem hsub) ?_ ?_
    · rw [since_concat hsub]
      exact hmem hfor
    · rw [early_concat hsub hfor, hfirst]
  | stopped h => exact .stopped (h.concat e)

/-- What raises nothing and concerns others changes nothing. -/
theorem pass (k : Known events i n p) (hs : e ≠ .move i .subscribe) (hf : e ≠ .move i .forward)
    (hraised : e.raised = []) : Known (events ++ [e]) i n p := by
  have hsame : hearPhase e.raised p = p := by
    rw [hraised]
    cases p <;> rfl
  exact hsame ▸ k.hear hs hf

theorem move (k : Known events i r.watcher r.phase) (h : w.Moves r m said r')
    (hstop : ∀ n, w.isStopped n = true → Interrupted n events) :
    Known (events ++ [.move i m]) i r'.watcher r'.phase := by
  have hlast : .move i m ∈ events ++ [WatchEvent.move i m] := List.mem_append_right _ List.mem_cons_self
  cases h with
  | subscribe n b =>
    cases k with
    | spawned hnot =>
      have hsince : since i (events ++ [.move i .subscribe]) = [.move i .subscribe] := since_subscribe hnot
      have hfor : .move i .forward ∉ since i (events ++ [.move i .subscribe]) := by
        rw [hsince, List.mem_singleton]
        exact fun h => by cases h
      exact .unread [] hlast hfor (by rw [hsince]; rfl)
  | refuse n b fault => exact .refused fault
  | forward n b signal rest buffer =>
    cases k with
    | unread _ hsub hfor hb =>
      -- the signal that is forwarded first is the oldest that is kept of what was raised until now
      refine .filled rest signal (List.mem_append_left _ hsub) ?_ ?_ ?_
      · rw [since_concat hsub]
        exact List.mem_append_right _ List.mem_cons_self
      · rw [early_forward hsub hfor, ← hb]
        rfl
      · exact Nat.le_of_succ_le (hb ▸ length_kept_le _ : (signal :: rest).length ≤ backlogLimit)
    | filled _ s hsub hfor hfirst hlen =>
      refine .filled rest s (List.mem_append_left _ hsub) ?_ ?_ (Nat.le_of_succ_le hlen)
      · rw [since_concat hsub]
        exact List.mem_append_left _ hfor
      · rw [early_concat hsub hfor, hfirst]
  | take n b backlog signal =>
    cases k.pass (e := .move i .take) (by simp) (by simp) rfl with
    | filled _ _ hsub hfor hfirst hlen => exact .got signal hsub hfor hfirst
  | stop n b backlog buffer h => exact .stopped ((hstop n h).concat _)

end Known

/-! ## What is known of all watchers -/

/-- What is known of each run, of those that are still to come, and of the stop flags that are raised. -/
structure Watched (events : List WatchEvent) (w : Watchers) : Prop where
  known : ∀ i r, w.runs[i]? = some r → Known events i r.watcher r.phase
  fresh : ∀ i, w.runs.length ≤ i → .move i .subscribe ∉ events
  interrupted : ∀ n, w.isStopped n = true → Interrupted n events

theorem runs_interrupt (w : Watchers) (n : Nat) (cause : Option Failure) :
    (w.interrupt n cause).2.runs = w.runs := by
  unfold interrupt
  split <;> rfl

theorem isStopped_of_interrupt {cause : Option Failure} {k : Nat}
    (h : (w.interrupt k cause).2.isStopped n = true) : w.isStopped n = true ∨ n = k := by
  unfold interrupt at h
  split at h
  · exact .inl h
  · by_cases hn : n = k
    · exact .inr hn
    · rw [isStopped, List.getElem?_set_ne (Ne.symm hn)] at h
      exact .inl h

/-- A watcher that is added is not stopped. -/
theorem isStopped_of_add (h : isStopped { w with stops := w.stops ++ [.new] } n = true) :
    w.isStopped n = true := by
  unfold isStopped at h ⊢
  obtain hlt | hle := Nat.lt_or_ge n w.stops.length
  · rwa [List.getElem?_append_left hlt] at h
  · rw [List.getElem?_append_right hle] at h
    cases hn : n - w.stops.length with
    | zero =>
      rw [hn] at h
      cases h
    | succ k =>
      rw [hn] at h
      cases h

namespace Watched

theorem empty : Watched [] empty where
  known := fun _ _ h => by cases h
  fresh := fun _ _ h => by cases h
  interrupted := fun _ h => by cases h

/-- What is no move of a run leaves no run out and makes none subscribe. -/
theorem fresh_step (a : Watched events w) (s : Step) (hle : w.runs.length ≤ i) :
    .move i .subscribe ∉ events ++ [.step s] := by
  rw [List.mem_append, List.mem_singleton, not_or]
  exact ⟨a.fresh i hle, fun h => by cases h⟩

theorem interrupted_concat (a : Watched events w) (e : WatchEvent) (h : w.isStopped n = true) :
    Interrupted n (events ++ [e]) := (a.interrupted n h).concat e

theorem step (a : Watched events w) (s : Step) : Watched (events ++ [.step s]) (w.step s).2.2 := by
  have hsub (i : Nat) : WatchEvent.step s ≠ .move i .subscribe := fun h => by cases h
  have hfor (i : Nat) : WatchEvent.step s ≠ .move i .forward := fun h => by cases h
  cases s with
  | add =>
    exact ⟨fun i r hr => (a.known i r hr).pass (hsub i) (hfor i) rfl, fun i => a.fresh_step _,
      fun n h => a.interrupted_concat _ (isStopped_of_add h)⟩
  | run watcher asActor =>
    refine ⟨fun i r hr => ?_, fun i hle => a.fresh_step _ ?_, fun n => a.interrupted_concat _⟩
    · have hruns : (w.runs ++ [⟨watcher, asActor, .spawned⟩])[i]? = some r := hr
      obtain hlt | hle := Nat.lt_or_ge i w.runs.length
      · rw [List.getElem?_append_left hlt] at hruns
        exact (a.known i r hruns).pass (hsub i) (hfor i) rfl
      · rw [List.getElem?_append_right hle] at hruns
        obtain rfl := List.mem_singleton.mp (List.mem_of_getElem? hruns)
        exact .spawned (a.fresh_step _ hle)
    · have hlen : (w.runs ++ [WatchRun.mk watcher asActor .spawned]).length ≤ i := hle
      rw [List.length_append] at hlen
      exact Nat.le_of_succ_le hlen
  | raise signals =>
    have hstep : (w.step (.raise signals)).2.2 = { w with runs := w.runs.map (hearAll signals) } :=
      raiseAll_snd w signals
    rw [hstep]
    refine ⟨fun i r hr => ?_, fun i hle => a.fresh_step _ ?_, fun n => a.interrupted_concat _⟩
    · have hruns : (w.runs.map (hearAll signals))[i]? = some r := hr
      rw [List.getElem?_map] at hruns
      obtain ⟨t, ht, rfl⟩ := Option.map_eq_some_iff.mp hruns
      exact (a.known i t ht).hear (hsub i) (hfor i)
    · exact (List.length_map (hearAll signals)) ▸ hle
  | interrupt k cause =>
    have hruns : (w.step (.interrupt k cause)).2.2.runs = w.runs := runs_interrupt w k cause
    refine ⟨fun i r hr => ?_, fun i hle => a.fresh_step _ (hruns ▸ hle), fun n h => ?_⟩
    · exact (a.known i r (hruns ▸ hr)).pass (hsub i) (hfor i) rfl
    · obtain h | rfl := isStopped_of_interrupt h
      · exact a.interrupted_concat _ h
      · exact ⟨cause, List.mem_append_right _ List.mem_cons_self⟩

theorem move (a : Watched events w) (h : w.move? i m = some (said, w')) :
    Watched (events ++ [.move i m]) w' := by
  obtain ⟨r, r', hr, hmoves, rfl⟩ := move?_eq_some_iff.mp h
  obtain ⟨hlt, -⟩ := List.getElem?_eq_some_iff.mp hr
  refine ⟨fun j t ht => ?_, fun j hle => ?_, fun n => a.interrupted_concat _⟩
  · by_cases hj : i = j
    · subst hj
      rw [List.getElem?_set_self hlt] at ht
      obtain rfl := Option.some.inj ht
      exact (a.known i r hr).move hmoves a.interrupted
    · rw [List.getElem?_set_ne hj] at ht
      exact (a.known j t ht).pass (fun h => hj (WatchEvent.move.inj h).1)
        (fun h => hj (WatchEvent.move.inj h).1) rfl
  · rw [List.length_set] at hle
    rw [List.mem_append, List.mem_singleton, not_or]
    exact ⟨a.fresh j hle, fun h => Nat.not_le.mpr hlt ((WatchEvent.move.inj h).1 ▸ hle)⟩

end Watched

theorem watched_of_run (h : Watchers.empty.run? events = some (reports, w)) : Watched events w := by
  refine History.run?_induction (P := fun events _ w => Watched events w) .empty ?_ h
  intro events _ w e said w' _ a hstep
  cases e with
  | step s =>
    obtain rfl := congrArg Prod.snd (Option.some.inj hstep)
    exact a.step s
  | move i m => exact a.move hstep

/-! ## Histories that settle -/

theorem exists_move_of_tick (h : w.tick? = some (said, w')) : ∃ i m, w.move? i m = some (said, w') := by
  obtain ⟨⟨r, i⟩, -, hmove⟩ := List.exists_of_findSome?_eq_some h
  obtain ⟨m, -, hmove⟩ := Option.bind_eq_some_iff.mp hmove
  exact ⟨i, m, hmove⟩

theorem exists_run_of_settleWith (fuel : Nat) (w : Watchers) :
    ∃ events reports, w.run? events = some (reports, (settleWith fuel w).2) ∧
      reports.flatten = (settleWith fuel w).1 ∧ events.filterMap step? = [] := by
  induction fuel generalizing w with
  | zero => exact ⟨[], [], History.run?_nil.mpr ⟨rfl, rfl⟩, rfl, rfl⟩
  | succ fuel ih =>
    rw [settleWith]
    cases htick : w.tick? with
    | none => exact ⟨[], [], History.run?_nil.mpr ⟨rfl, rfl⟩, rfl, rfl⟩
    | some out =>
      obtain ⟨said, w'⟩ := out
      obtain ⟨i, m, hmove⟩ := exists_move_of_tick htick
      obtain ⟨events, reports, hrun, hsaid, hsteps⟩ := ih w'
      exact ⟨.move i m :: events, said :: reports, History.run?_cons.mpr ⟨_, _, _, hmove, hrun, rfl⟩,
        congrArg (said ++ ·) hsaid, hsteps⟩

/-- Steps after each of which the runs settle or do not are events in one of the orders in which they can
happen. -/
theorem exists_run_of_history (w : Watchers) (steps : List (Step × Bool)) :
    ∃ events reports, w.run? events =
        some (reports, ((w.history steps).1.map Prod.snd).getLast?.getD w) ∧
      reports.flatten = (w.history steps).2 ∧ events.filterMap step? = steps.map Prod.fst := by
  induction steps generalizing w with
  | nil => exact ⟨[], [], History.run?_nil.mpr ⟨rfl, rfl⟩, rfl, rfl⟩
  | cons first steps ih =>
    obtain ⟨s, settled⟩ := first
    obtain ⟨out, hout⟩ : ∃ out, out = if settled then (w.step s).2.2.settle else ([], (w.step s).2.2) :=
      ⟨_, rfl⟩
    obtain ⟨between, told, hbetween, htold, hnone⟩ : ∃ events reports,
        (w.step s).2.2.run? events = some (reports, out.2) ∧ reports.flatten = out.1 ∧
        events.filterMap step? = [] := by
      rw [hout]
      cases settled with
      | true => exact exists_run_of_settleWith _ _
      | false => exact ⟨[], [], History.run?_nil.mpr ⟨rfl, rfl⟩, rfl, rfl⟩
    obtain ⟨events, reports, hrun, hsaid, hsteps⟩ := ih out.2
    have hhistory : w.history ((s, settled) :: steps) = (((w.step s).1, out.2) :: (out.2.history steps).1,
        (w.step s).2.1 ++ out.1 ++ (out.2.history steps).2) := by
      rw [hout]
      rfl
    have hstep : (WatchEvent.step s).step? = some s := rfl
    refine ⟨.step s :: (between ++ events), (w.step s).2.1 :: (told ++ reports), ?_, ?_, ?_⟩
    · refine History.run?_cons.mpr ⟨_, _, _, rfl, History.run?_append hbetween ?_, rfl⟩
      rw [hhistory, List.map_cons, List.getLast?_cons]
      exact hrun
    · rw [List.flatten_cons, List.flatten_append, htold, hsaid, hhistory, ← List.append_assoc]
    · rw [List.filterMap_cons_some hstep, List.filterMap_append, hnone, hsteps]
      rfl

/-! ## Every order of events -/

/-- In whatever order signals are raised, watchers interrupted and runs moved: a run that ends with a signal
ends with the first that was raised since it subscribed, unless more were raised than are kept before one was
forwarded to it; then it is the oldest of those that were kept. A run that ends without one belongs to a
watcher that was interrupted before. A run that waits with nothing left to be forwarded has a signal in its
buffer if any was raised since it subscribed. And what is raised is kept for each run that waits. -/
theorem first_signal_of_run (h : Watchers.empty.run? events = some (reports, w)) (hr : w.runs[i]? = some r) :
    (∀ s, r.phase = .ended (some s) →
      ((early i events).length ≤ backlogLimit → (raisedIn (since i events)).head? = some s) ∧
      (backlogLimit < (early i events).length →
        (early i events)[(early i events).length - backlogLimit]? = some s)) ∧
    (r.phase = .ended none → Interrupted r.watcher events) ∧
    (∀ buffer, r.phase = .waiting [] buffer → raisedIn (since i events) ≠ [] → buffer.isSome = true) ∧
    (∀ backlog buffer signals, r.phase = .waiting backlog buffer →
      (w.raiseAll signals).2.runs[i]? =
        some { r with phase := .waiting (kept (backlog ++ signals)) buffer }) := by
  have k := (watched_of_run h).known i r hr
  obtain ⟨n, b, p⟩ := r
  refine ⟨fun s hp => ?_, fun hp => ?_, fun buffer hp hraised => ?_, fun backlog buffer signals hp => ?_⟩
  all_goals
    obtain rfl : p = _ := hp
  · cases k with
    | got _ hsub hfor hfirst =>
      refine ⟨fun hle => ?_, fun _ => (head?_kept _).symm.trans hfirst⟩
      obtain ⟨rest, hrest⟩ := early_isPrefix i events
      rw [← hrest, List.head?_append, ← kept_eq_self hle, hfirst]
      rfl
  · cases k with
    | stopped hinterrupted => exact hinterrupted
  · cases k with
    | unread _ hsub hfor hb => exact absurd (kept_eq_nil_iff.mp hb.symm) hraised
    | filled _ s hsub hfor hfirst hlen => rfl
  · rw [raiseAll_snd]
    have hheard := congrArg (Option.map (hearAll signals)) hr
    rw [← List.getElem?_map] at hheard
    refine hheard.trans ?_
    rw [Option.map_some, hearAll, hearPhase, backlogAfter_eq k.length_le]

/-- Two watchers wait. The second is told of the first signal before sixteen more are raised, and the first
only after them. -/
def burst : List WatchEvent :=
  [.step .add, .step .add, .step (.run 0 false), .step (.run 1 true), .move 0 .subscribe, .move 1 .subscribe,
    .step (.raise [.interrupt]), .move 1 .forward, .step (.raise (.replicate 16 .terminate)),
    .move 0 .forward, .move 1 .forward, .move 0 .take, .move 1 .take]

theorem first_signal_of_burst : ∃ reports w, Watchers.empty.run? burst = some (reports, w) ∧
    w.runs = [⟨0, false, .ended (some .terminate)⟩, ⟨1, true, .ended (some .interrupt)⟩] ∧
    (early 0 burst)[(early 0 burst).length - backlogLimit]? = some .terminate ∧
    (raisedIn (since 1 burst)).head? = some .interrupt := by
  have hrun : (Watchers.empty.run? burst).map (fun out => out.2.runs) =
      some [⟨0, false, .ended (some .terminate)⟩, ⟨1, true, .ended (some .interrupt)⟩] := by
    decide
  obtain ⟨⟨reports, w⟩, h, hruns⟩ := Option.map_eq_some_iff.mp hrun
  have hfirst := first_signal_of_run (i := 0) h (by rw [hruns]; rfl)
  have hsecond := first_signal_of_run (i := 1) h (by rw [hruns]; rfl)
  exact ⟨reports, w, h, hruns, (hfirst.1 .terminate rfl).2 (by decide),
    (hsecond.1 .interrupt rfl).1 (by decide)⟩

end Watchers

end MetricsGateway
