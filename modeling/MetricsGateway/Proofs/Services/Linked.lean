import MetricsGateway.Process.Services
import MetricsGateway.Proofs.Group.FanOut
import MetricsGateway.Proofs.Group.Return
import MetricsGateway.Proofs.Server.Fits
import MetricsGateway.Proofs.Watchers.Moves

/-!
The actors of the gateway and their group agree: the tasks know which actors have ended, completions
tell how, and each actor was stopped or will be, once a completion was taken.
-/

namespace MetricsGateway

/-- What the task of an actor knows about how the actor has ended. -/
def RunTask.Knows : RunTask → Option RunEnd → Prop
  | .running, e => e = none
  | .ended how, e => e = some how
  | .reported, e => e.isSome = true

namespace Services

variable {o : ServerOptions} {s s' : Services} {w : Watchers} {v : Server} {run' : GroupRun}
  {i j : Nat} {how : RunEnd} {cause : Option Failure}

/-- No end of an actor is forgotten. -/
def Keeps (s s' : Services) : Prop := ∀ i how, s.end? i = some how → s'.end? i = some how

/-- Was this actor told to stop? -/
def isTold (s : Services) (i : Nat) : Bool :=
  if i = watcherIndex then s.isWatcherStopped else s.server.stop.raised

theorem isTold_mono (hw : s.isWatcherStopped = true → s'.isWatcherStopped = true)
    (hv : s.server.stop.raised = true → s'.server.stop.raised = true) (h : s.isTold i = true) :
    s'.isTold i = true := by
  by_cases hi : i = watcherIndex
  · rw [isTold, if_pos hi] at h ⊢
    exact hw h
  · rw [isTold, if_neg hi] at h ⊢
    exact hv h

theorem end?_congr (hw : s'.watchers.runs = s.watchers.runs) (hv : s'.server.runs = s.server.runs)
    (i : Nat) : s'.end? i = s.end? i := by
  simp only [end?, Watchers.latest?, Server.result?, hw, hv]

theorem end?_watcher {p : WatchPhase} (h : s.watchers.runs = [⟨0, true, p⟩]) :
    s.end? watcherIndex = p.end? := by
  simp [end?, Watchers.latest?, h]

theorem end?_server {r : ServerRun} (h : s.server.runs = [r]) (hi : i ≠ watcherIndex) :
    s.end? i = some how ↔ r = .ended how := by
  rw [end?, if_neg hi, Server.result?, h]
  cases r <;> simp

theorem end?_new (h : s.watchers.runs = []) (h' : s.server.runs = []) : s.end? i = none := by
  simp [end?, Watchers.latest?, Server.result?, h, h']

/-- The actors were not started yet, or each of them has one run. -/
def Started (w : Watchers) (v : Server) (g : GroupRun) : Prop :=
  w.runs = [] ∧ v.runs = [] ∧ g.tasks = [] ∨
    ∃ p r, w.runs = [⟨0, true, p⟩] ∧ v.runs = [r] ∧ g.tasks.length = 2

/-- The actors and their group agree, apart from what the tasks know. -/
structure Joined (o : ServerOptions) (s : Services) : Prop where
  account : ∃ story, GroupRun.Account names story s.run
  stops : ∃ f, s.watchers.stops = [f]
  inTurn : s.server.InTurn o
  started : Started s.watchers s.server s.run
  arrived : ∀ c ∈ s.run.arrived, ∃ how, s.end? c.index = some how ∧
    c.failure = how.failure? ((names[c.index]?).getD "")
  told : s.run.group.taken ≠ [] → ∀ i < 2, s.isTold i = true ∨ ∃ cause, .interrupt i cause ∈ s.run.due

/-- The actors and their group agree. -/
structure Linked (o : ServerOptions) (s : Services) : Prop extends Joined o s where
  knows : ∀ (i : Nat) t, s.run.tasks[i]? = some t → t.Knows (s.end? i)

theorem Linked.new (o : ServerOptions) : Linked o (Services.new o) where
  account := ⟨[], .new names⟩
  stops := ⟨.new, rfl⟩
  inTurn := .new o
  started := .inl ⟨rfl, rfl, rfl⟩
  arrived := by simp [Services.new, GroupRun.new, GroupRun.arrived, Group.new]
  told := by simp [Services.new, GroupRun.new, Group.new]
  knows := by simp [Services.new, GroupRun.new]

/-- The actors change, but no end of one is forgotten and no stop is taken back. -/
theorem Joined.actors (l : Joined o s) (hstops : ∃ f, w.stops = [f]) (hturn : v.InTurn o)
    (hstarted : Started w v s.run)
    (hend : Keeps s ⟨w, v, s.run⟩)
    (hw : s.isWatcherStopped = true → w.isStopped 0 = true)
    (hv : s.server.stop.raised = true → v.stop.raised = true) : Joined o ⟨w, v, s.run⟩ where
  account := l.account
  stops := hstops
  inTurn := hturn
  started := hstarted
  arrived c hc := by
    obtain ⟨how, he, hf⟩ := l.arrived c hc
    exact ⟨how, hend _ _ he, hf⟩
  told ht i hi := (l.told ht i hi).imp_left (isTold_mono hw hv)

theorem note_eq (s : Services) (i : Nat) :
    (s.run.tasks[i]? = some .running → s.end? i = none) ∧ s.note i = s ∨
      ∃ how, s.end? i = some how ∧ s.run.tasks[i]? = some .running ∧
        s.note i = { s with run := { s.run with tasks := s.run.tasks.set i (.ended how) } } := by
  cases he : s.end? i with
  | none => exact .inl ⟨fun _ => rfl, by rw [note, he, Option.bind_none]⟩
  | some how =>
    by_cases ht : s.run.tasks[i]? = some .running
    · refine .inr ⟨how, rfl, ht, ?_⟩
      rw [note, he, Option.bind_some, GroupRun.finish?, if_pos ht]
    · refine .inl ⟨fun h => absurd h ht, ?_⟩
      rw [note, he, Option.bind_some, GroupRun.finish?, if_neg ht]

theorem Joined.note (l : Joined o s) (i : Nat) : Joined o (s.note i) := by
  obtain ⟨-, h⟩ | ⟨how, he, ht, h⟩ := note_eq s i
  · rwa [h]
  · rw [h]
    obtain ⟨story, a⟩ := l.account
    refine ⟨⟨_, a.step (.finish i how ht)⟩, l.stops, l.inTurn, ?_, l.arrived, l.told⟩
    obtain ⟨-, -, hn⟩ | ⟨p, r, hw, hv, hl⟩ := l.started
    · simp [hn] at ht
    · exact .inr ⟨p, r, hw, hv, by rw [List.length_set, hl]⟩

/-- Once noted, the end of an actor is known to its task; the others know what they knew. -/
theorem knows_note (hknows : ∀ (j : Nat) t, s.run.tasks[j]? = some t → t.Knows (s.end? j))
    (hrun : s'.run = s.run) (hend : s.Keeps s')
    (hother : ∀ j, j ≠ i → j < s.run.tasks.length → s'.end? j = s.end? j) (j : Nat) (t : RunTask)
    (ht : (s'.note i).run.tasks[j]? = some t) : t.Knows ((s'.note i).end? j) := by
  have hold : (s.run.tasks[j]? = some .running → s'.end? j = s.end? j) →
      s.run.tasks[j]? = some t → t.Knows (s'.end? j) := by
    intro hsame ht
    have hk := hknows j t ht
    cases t with
    | running =>
      rw [hsame ht]
      exact hk
    | ended how => exact hend j how hk
    | reported =>
      obtain ⟨how, he⟩ := Option.isSome_iff_exists.mp hk
      simp [RunTask.Knows, hend j how he]
  obtain ⟨hn, h⟩ | ⟨how, he, hr, h⟩ := note_eq s' i
  · rw [h] at ht ⊢
    rw [hrun] at ht hn
    refine hold (fun hj => ?_) ht
    by_cases hij : j = i
    · subst j
      have hk := hknows i _ hj
      rw [hn hj]
      exact hk.symm
    · exact hother j hij (List.getElem?_eq_some_iff.mp hj).1
  · rw [h] at ht ⊢
    change t.Knows (s'.end? j)
    by_cases hij : i = j
    · subst j
      have hi := (List.getElem?_eq_some_iff.mp hr).1
      simp only [List.getElem?_set_self hi, Option.some.injEq] at ht
      rw [← ht]
      exact he
    · simp only [List.getElem?_set_ne hij, hrun] at ht
      exact hold (fun hj => hother j (Ne.symm hij) (List.getElem?_eq_some_iff.mp hj).1) ht

theorem end?_note (s : Services) (i j : Nat) : (s.note i).end? j = s.end? j := by
  obtain ⟨-, h⟩ | ⟨how, -, -, h⟩ := note_eq s i
  · rw [h]
  · rw [h]
    rfl

theorem server_note (s : Services) (i : Nat) : (s.note i).server = s.server := by
  obtain ⟨-, h⟩ | ⟨how, -, -, h⟩ := note_eq s i <;> rw [h]

section Actors

variable {said : Observed}

theorem Linked.watch (l : Linked o s) {m : WatchMove} (h : s.watch? m = some (said, s')) :
    Linked o s' ∧ s.Keeps s' := by
  obtain ⟨⟨records, w'⟩, hm, heq⟩ := Option.map_eq_some_iff.mp h
  obtain ⟨-, rfl⟩ := Prod.mk.inj heq
  obtain ⟨q, q', hq, hmove, hw'⟩ := Watchers.move?_eq_some_iff.mp hm
  obtain ⟨hw, -⟩ | ⟨p, r, hw, hv, hl⟩ := l.started
  · simp [hw] at hq
  · obtain rfl : ⟨0, true, p⟩ = q := by simpa [hw] using hq
    obtain ⟨p', rfl⟩ : ∃ p', q' = ⟨0, true, p'⟩ := by cases hmove <;> exact ⟨_, rfl⟩
    have hp : p.end? = none := by cases hmove <;> rfl
    have hruns : w'.runs = [⟨0, true, p'⟩] := by simp [hw', hw]
    have hstops : w'.stops = s.watchers.stops := by rw [hw']
    have hend : s.Keeps { s with watchers := w' } := by
      intro i how he
      by_cases hi : i = watcherIndex
      · rw [hi, end?_watcher hw, hp] at he
        cases he
      · simpa [end?, hi] using he
    have hstarted : Started w' s.server s.run := .inr ⟨p', r, hruns, hv, hl⟩
    have hj := l.toJoined.actors (hstops ▸ l.stops) l.inTurn hstarted hend
      (fun ht => by rw [Watchers.isStopped, hstops]; exact ht) id
    refine ⟨⟨hj.note _, knows_note l.knows rfl hend fun j hj _ => ?_⟩, fun i how he => ?_⟩
    · rw [end?, end?, if_neg hj, if_neg hj]
    · rw [end?_note]
      exact hend i how he

theorem Linked.serve (l : Linked o s) (hmax : o.maxConnections ≤ Pool.maxSize) {e : ServerEvent}
    (hcall : e ≠ .call) (h : s.serve? e = some (said, s')) : Linked o s' ∧ s.Keeps s' := by
  obtain ⟨⟨records, v⟩, hv, heq⟩ := Option.map_eq_some_iff.mp h
  obtain ⟨-, rfl⟩ := Prod.mk.inj heq
  have hs := Server.steps_of_step? hv
  have hturn := l.inTurn.step hmax hs fun he => absurd he hcall
  have hstarted : Started s.watchers v s.run := by
    obtain ⟨hw, hn, ht⟩ | ⟨p, r, hw, hr, ht⟩ := l.started
    · exact .inl ⟨hw, hs.no_run hcall hn, ht⟩
    · obtain ⟨r', hr', -⟩ := hs.one_run hcall hr
      exact .inr ⟨p, r', hw, hr', ht⟩
  have hend : s.Keeps { s with server := v } := by
    intro i how he
    by_cases hi : i = watcherIndex
    · simpa [end?, hi] using he
    · obtain ⟨hw, hn, -⟩ | ⟨p, r, hw, hr, -⟩ := l.started
      · rw [end?_new hw hn] at he
        cases he
      · obtain ⟨r', hr', hk⟩ := hs.one_run hcall hr
        exact (end?_server hr' hi).mpr (hk how ((end?_server hr hi).mp he))
  have hj := l.toJoined.actors l.stops hturn hstarted hend id hs.stop_raised
  refine ⟨⟨hj.note _, knows_note l.knows rfl hend fun j hj hlt => ?_⟩, fun i how he => ?_⟩
  · obtain ⟨story, a⟩ := l.account
    have hl : j < 2 := Nat.lt_of_lt_of_le hlt a.tasks_le
    obtain rfl : j = watcherIndex := by
      simp only [serverIndex, watcherIndex] at hj ⊢
      omega
    rfl
  · rw [end?_note]
    exact hend i how he

/-- The actors change, but not how they have ended. -/
theorem Linked.actors_same (l : Linked o s) (hstops : ∃ f, w.stops = [f]) (hturn : v.InTurn o)
    (hstarted : Started w v s.run) (hsame : ∀ i, end? ⟨w, v, s.run⟩ i = s.end? i)
    (hw : s.isWatcherStopped = true → w.isStopped 0 = true)
    (hv : s.server.stop.raised = true → v.stop.raised = true) : Linked o ⟨w, v, s.run⟩ := by
  have hend : s.Keeps ⟨w, v, s.run⟩ := fun i how he => (hsame i).trans he
  refine ⟨l.toJoined.actors hstops hturn hstarted hend hw hv, fun i t ht => ?_⟩
  rw [hsame]
  exact l.knows i t ht

theorem hear_end? (signal : Signal) (p : WatchPhase) :
    ∃ p', Watchers.hear signal ⟨0, true, p⟩ = ⟨0, true, p'⟩ ∧ p'.end? = p.end? := by
  cases p <;> exact ⟨_, rfl, rfl⟩

theorem Linked.raise (l : Linked o s) (signal : Signal) :
    Linked o { s with watchers := (s.watchers.raise signal).2 } ∧
      s.Keeps { s with watchers := (s.watchers.raise signal).2 } := by
  have hruns : s.watchers.runs = [] ∧ (s.watchers.raise signal).2.runs = [] ∨
      ∃ p p', s.watchers.runs = [⟨0, true, p⟩] ∧
        (s.watchers.raise signal).2.runs = [⟨0, true, p'⟩] ∧ p'.end? = p.end? := by
    obtain ⟨hw, -⟩ | ⟨p, r, hw, -⟩ := l.started
    · exact .inl ⟨hw, by simp [Watchers.raise, hw]⟩
    · obtain ⟨p', hp, he⟩ := hear_end? signal p
      exact .inr ⟨p, p', hw, by simp [Watchers.raise, hw, hp], he⟩
  have hsame : ∀ i, end? ⟨(s.watchers.raise signal).2, s.server, s.run⟩ i = s.end? i := by
    intro i
    by_cases hi : i = watcherIndex
    · obtain ⟨hw, hw'⟩ | ⟨p, p', hw, hw', he⟩ := hruns
      · simp [end?, hi, Watchers.latest?, hw, hw']
      · rw [hi, end?_watcher hw, end?_watcher hw', he]
    · rw [end?, end?, if_neg hi, if_neg hi]
  have hstarted : Started (s.watchers.raise signal).2 s.server s.run := by
    obtain ⟨hw, hv, ht⟩ | ⟨p, r, hw, hv, ht⟩ := l.started
    · obtain ⟨-, hw'⟩ | ⟨p, p', hw', -⟩ := hruns
      · exact .inl ⟨hw', hv, ht⟩
      · simp [hw] at hw'
    · obtain ⟨hw', -⟩ | ⟨p, p', -, hw', -⟩ := hruns
      · simp [hw] at hw'
      · exact .inr ⟨p', r, hw', hv, ht⟩
  exact ⟨l.actors_same l.stops l.inTurn hstarted hsame id id, fun i how he => (hsame i).trans he⟩

/-- An interrupted actor is told to stop, and nothing else changes. -/
theorem Linked.interrupt (l : Linked o s) (hmax : o.maxConnections ≤ Pool.maxSize) (i : Nat)
    (cause : Option Failure) : Linked o (s.interrupt i cause).2 ∧ s.Keeps (s.interrupt i cause).2 ∧
      (s.interrupt i cause).2.isTold i = true ∧ (s.interrupt i cause).2.run = s.run := by
  by_cases hi : i = watcherIndex
  · obtain ⟨f, hf⟩ := l.stops
    have hw : (s.watchers.interrupt 0 cause).2 = { s.watchers with stops := [f.raise.2] } := by
      simp [Watchers.interrupt, hf]
    have hs : (s.interrupt i cause).2 = ⟨{ s.watchers with stops := [f.raise.2] }, s.server, s.run⟩ := by
      rw [Services.interrupt, if_pos hi, ← hw]
    rw [hs]
    refine ⟨l.actors_same ⟨_, rfl⟩ l.inTurn l.started (end?_congr rfl rfl) (fun _ => rfl) id,
      fun i how he => he, ?_, rfl⟩
    rw [isTold, if_pos hi]
    rfl
  · have hs : (s.interrupt i cause).2 =
        ⟨s.watchers, { s.server with stop := s.server.stop.raise.2 }, s.run⟩ := by
      rw [Services.interrupt, if_neg hi]
      rfl
    have hturn := l.inTurn.step hmax (.interrupt cause) (by simp)
    rw [hs]
    refine ⟨l.actors_same l.stops hturn l.started (end?_congr rfl rfl) id (fun _ => rfl),
      fun i how he => he, ?_, rfl⟩
    rw [isTold, if_neg hi]
    rfl

theorem interrupt_run (s : Services) (run' : GroupRun) (i : Nat) (cause : Option Failure) :
    (Services.interrupt { s with run := run' } i cause).2 =
      { (s.interrupt i cause).2 with run := run' } := by
  unfold Services.interrupt
  split <;> rfl

theorem Linked.report (l : Linked o s) {t : RunTask} (ht : s.run.tasks[i]? = some t)
    (hhow : t = .ended how) (room : s.run.channel.length < s.run.capacity) :
    Linked o { s with run := { s.run with
      tasks := s.run.tasks.set i .reported
      channel := s.run.channel ++ [s.run.completion i how] } } := by
  subst hhow
  obtain ⟨story, a⟩ := l.account
  have he := l.knows i _ ht
  refine ⟨⟨⟨_, a.step (.report i how ht room)⟩, l.stops, l.inTurn, ?_, fun c hc => ?_, l.told⟩,
    fun j t hj => ?_⟩
  · obtain ⟨-, -, hn⟩ | ⟨p, r, hw, hv, hl⟩ := l.started
    · simp [hn] at ht
    · exact .inr ⟨p, r, hw, hv, by simpa using hl⟩
  · simp only [GroupRun.arrived, ← List.append_assoc, List.mem_append, List.mem_singleton] at hc
    obtain hc | rfl := hc
    · exact l.arrived c (List.mem_append.mpr hc)
    · refine ⟨how, he, ?_⟩
      rw [← a.names_eq]
      rfl
  · by_cases hij : i = j
    · subst j
      have hi := (List.getElem?_eq_some_iff.mp ht).1
      simp only [List.getElem?_set_self hi, Option.some.injEq] at hj
      rw [← hj]
      exact Option.isSome_of_eq_some he
    · simp only [List.getElem?_set_ne hij] at hj
      exact l.knows j t hj

theorem Linked.take (l : Linked o s) {c : Completion} {rest : List Completion}
    (hc : s.run.channel = c :: rest) (started : s.run.tasks.length = s.run.names.length)
    (idle : s.run.due = []) (more : s.run.group.returned = false) :
    Linked o { s with run :=
      ⟨(s.run.group.take c).2, s.run.tasks, rest, (s.run.group.take c).1⟩ } := by
  obtain ⟨story, a⟩ := l.account
  refine ⟨⟨⟨_, a.step (.take c rest hc started idle more)⟩, l.stops, l.inTurn, l.started,
    fun d hd => l.arrived d ?_, fun _ j hj => ?_⟩, l.knows⟩
  · simpa [GroupRun.arrived, hc] using hd
  · by_cases ht : s.run.group.taken = []
    · have hn : s.run.group.names.length = 2 := congrArg List.length a.names_eq
      have hm : Group.Act.interrupt j c.failure ∈ s.run.group.fanOut c.failure :=
        List.mem_map.mpr ⟨j, List.mem_range.mpr (hn ▸ hj), rfl⟩
      exact .inr ⟨c.failure, by simp [Group.take, ht, hm]⟩
    · refine .inl ((l.told ht j hj).resolve_right ?_)
      simp [idle]

theorem Linked.act (l : Linked o s) {act : Group.Act} {rest : List Group.Act}
    (hd : s.run.due = act :: rest)
    (htold : ∀ i cause, act = .interrupt i cause → s.isTold i = true) :
    Linked o { s with run := { s.run with due := rest } } := by
  obtain ⟨story, a⟩ := l.account
  refine ⟨⟨⟨_, a.step (.act act rest hd)⟩, l.stops, l.inTurn, l.started, l.arrived,
    fun ht j hj => ?_⟩, l.knows⟩
  obtain h | ⟨cause, hm⟩ := l.told ht j hj
  · exact .inl h
  · rw [hd, List.mem_cons] at hm
    obtain rfl | hm := hm
    · exact .inl (htold j cause rfl)
    · exact .inr ⟨cause, hm⟩

theorem moves_of_drive? {m : GroupMove} (h : s.drive? m = some (said, s')) :
    ∃ what run', s.run.Moves m what run' ∧ m.isOwn = true ∧
      s' = (perform { s with run := run' } what).2 := by
  cases m with
  | start | finish => cases h
  | report | take | act =>
    obtain ⟨⟨what, run'⟩, hm, heq⟩ := Option.map_eq_some_iff.mp h
    exact ⟨what, run', GroupRun.step?_eq_some_iff.mp hm, rfl, (congrArg Prod.snd heq).symm⟩

theorem Linked.drive (l : Linked o s) (hmax : o.maxConnections ≤ Pool.maxSize) {m : GroupMove}
    (h : s.drive? m = some (said, s')) : Linked o s' ∧ s.Keeps s' := by
  obtain ⟨what, run', hm, hown, rfl⟩ := moves_of_drive? h
  cases hm with
  | start | finish => cases hown
  | report i how ht room => exact ⟨l.report ht rfl room, fun i how he => he⟩
  | take c rest hc started idle more => exact ⟨l.take hc started idle more, fun i how he => he⟩
  | act act rest hd =>
    cases act with
    | exit | log => exact ⟨l.act hd (by simp), fun i how he => he⟩
    | interrupt i cause =>
      obtain ⟨l', hk, ht, hrun⟩ := l.interrupt hmax i cause
      have hd' : (s.interrupt i cause).2.run.due = .interrupt i cause :: rest := by rw [hrun, hd]
      have hl := l'.act hd' (by simpa using ht)
      rw [hrun] at hl
      simp only [perform, interrupt_run]
      exact ⟨hl, hk⟩

/-- The start is possible only once, and both actors get a run and a task. -/
theorem Linked.eq_of_start? (l : Linked o s) (h : s.start? = some (said, s')) :
    (s.watchers.runs = [] ∧ s.server.runs = [] ∧ s.run.tasks = []) ∧
      (∃ what g what', s.run.Moves .start what g ∧ g.Moves .start what' s'.run) ∧
      s' = ⟨{ s.watchers with runs := [⟨0, true, .spawned⟩] }, { s.server with runs := [.called] },
        { s.run with tasks := [.running, .running] }⟩ := by
  obtain ⟨⟨what, run'⟩, hr, heq⟩ := Option.map_eq_some_iff.mp h
  obtain ⟨-, rfl⟩ := Prod.mk.inj heq
  obtain ⟨what, g, rest, hg, hr, -⟩ := History.run?_cons.mp hr
  obtain ⟨what', g', rest', hg', hr, -⟩ := History.run?_cons.mp hr
  obtain ⟨-, rfl⟩ := History.run?_nil.mp hr
  have hm := GroupRun.step?_eq_some_iff.mp hg
  have hm' := GroupRun.step?_eq_some_iff.mp hg'
  obtain ⟨story, a⟩ := l.account
  have hnames := a.names_eq
  obtain ⟨hw, hv, ht⟩ | ⟨p, r, -, -, hl⟩ := l.started
  · refine ⟨⟨hw, hv, ht⟩, ⟨what, g, what', hm, hm'⟩, ?_⟩
    cases hm with
    | start =>
      cases hm' with
      | start => simp [hw, hv, ht]
  · cases hm with
    | start hlt =>
      rw [hl, hnames] at hlt
      simp [names] at hlt

theorem Linked.start (l : Linked o s) (hmax : o.maxConnections ≤ Pool.maxSize)
    (h : s.start? = some (said, s')) : Linked o s' ∧ s.Keeps s' := by
  obtain ⟨⟨hw, hv, ht⟩, ⟨what, g, what', hm, hm'⟩, rfl⟩ := l.eq_of_start? h
  obtain ⟨story, a⟩ := l.account
  have hnew : ∀ i, s.end? i = none := fun i => end?_new hw hv
  have hturn : Server.InTurn o { s.server with runs := [.called] } := by
    have h := l.inTurn.step hmax .call fun _ r hr => by simp [hv] at hr
    simpa only [hv, List.nil_append] using h
  refine ⟨⟨⟨⟨_, (a.step hm).step hm'⟩, l.stops, hturn, ?_, fun c hc => ?_, l.told⟩, fun i t hi => ?_⟩,
    fun i how he => by simp [hnew] at he⟩
  · exact .inr ⟨.spawned, .called, rfl, rfl, rfl⟩
  · obtain ⟨how, he, -⟩ := l.arrived c hc
    simp [hnew] at he
  · have hrun : t = .running := by simpa using List.mem_of_getElem? hi
    subst hrun
    simp [RunTask.Knows, end?, Watchers.latest?, Server.result?, WatchPhase.end?]

/-- Every event keeps the actors and their group in agreement, and no end of an actor is forgotten. -/
theorem Linked.step (l : Linked o s) (hmax : o.maxConnections ≤ Pool.maxSize) {e : ServicesEvent}
    (h : s.step? e = some (said, s')) : Linked o s' ∧ s.Keeps s' := by
  cases e with
  | start => exact l.start hmax h
  | raise signal =>
    cases h
    exact l.raise signal
  | interrupt actor cause =>
    obtain ⟨hl, hk, -⟩ := l.interrupt hmax actor cause
    obtain rfl := congrArg Prod.snd (Option.some.inj h)
    exact ⟨hl, hk⟩
  | watch m => exact l.watch h
  | serve e =>
    cases e with
    | call | interrupt => cases h
    | pass | run => exact l.serve hmax (by simp) h
  | group m => exact l.drive hmax h

end Actors

end Services

end MetricsGateway
