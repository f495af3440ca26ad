import MetricsGateway.Proofs.Server.Moves
import Mathlib.Data.List.Nodup

/-!
A server whose runs are awaited: at most one run is under way, and where it stands tells what the
server publishes and how many connections are open.
-/

namespace MetricsGateway

namespace Serving

variable {v : Serving} {client : Nat} {state : TaskState} {tasks : List ConnectionTask}

/-- No two tasks serve the same client. -/
def Distinct (v : Serving) : Prop := (v.tasks.map ConnectionTask.client).Nodup

theorem isServing_iff : v.isServing client = true ↔ ⟨client, .running⟩ ∈ v.tasks := by
  simp [isServing]

/-- While something is running there is a client that is served. -/
theorem exists_isServing (h : 0 < v.running) : ∃ client, v.isServing client = true := by
  obtain ⟨⟨client, state⟩, ht, hs⟩ := List.countP_pos_iff.mp h
  obtain rfl : state = .running := by simpa using hs
  exact ⟨client, isServing_iff.mpr ht⟩

/-- The tasks after the one that serves a client has ended. -/
def ending (client : Nat) (state : TaskState) (tasks : List ConnectionTask) : List ConnectionTask :=
  tasks.map fun t => if t = ⟨client, .running⟩ then ⟨client, state⟩ else t

theorem map_client_ending :
    (ending client state tasks).map ConnectionTask.client = tasks.map ConnectionTask.client := by
  rw [ending, List.map_map]
  refine List.map_congr_left fun t _ => ?_
  simp only [Function.comp_apply]
  split
  · next ht => rw [ht]
  · rfl

theorem Distinct.finish (hd : v.Distinct) : (v.finish client state).Distinct := by
  have hm : ((v.finish client state).tasks.map ConnectionTask.client) =
      v.tasks.map ConnectionTask.client := map_client_ending
  rwa [Distinct, hm]

/-- The clients that are served. -/
def clients (v : Serving) : List Nat :=
  (v.tasks.filter (·.state = .running)).map ConnectionTask.client

theorem length_clients : v.clients.length = v.running := by
  rw [clients, List.length_map, running, List.countP_eq_length_filter]

theorem mem_clients : client ∈ v.clients ↔ v.isServing client = true := by
  rw [isServing_iff]
  constructor
  · intro h
    obtain ⟨⟨c, state⟩, ht, rfl⟩ := List.mem_map.mp h
    obtain ⟨ht, hs⟩ := List.mem_filter.mp ht
    obtain rfl : state = .running := by simpa using hs
    exact ht
  · intro h
    exact List.mem_map.mpr ⟨⟨client, .running⟩, List.mem_filter.mpr ⟨h, by simp⟩, rfl⟩

theorem Distinct.nodup_clients (hd : v.Distinct) : v.clients.Nodup :=
  hd.sublist (List.filter_sublist.map _)

theorem filter_ending (hs : state ≠ .running) :
    (ending client state tasks).filter (·.state = .running) =
      tasks.filter fun t => t.client != client && t.state = .running := by
  induction tasks with
  | nil => rfl
  | cons t tasks ih =>
    have he : ending client state (t :: tasks) =
        (if t = ⟨client, .running⟩ then ⟨client, state⟩ else t) :: ending client state tasks := rfl
    obtain ⟨c, d⟩ := t
    rw [he, List.filter_cons, List.filter_cons, ih]
    by_cases hc : c = client <;> by_cases hd : d = .running <;> simp [hc, hd, hs]

theorem clients_finish (hs : state ≠ .running) :
    (v.finish client state).clients = v.clients.filter (· != client) := by
  have hf : (v.finish client state).tasks.filter (·.state = .running) =
      v.tasks.filter fun t => t.client != client && t.state = .running := filter_ending hs
  rw [clients, hf, clients, List.filter_map, List.filter_filter]
  rfl

theorem Distinct.clients_abort (hd : v.Distinct) :
    (v.abort client).clients = v.clients.filter (· != client) := by
  have ht : v.tasks.Nodup := hd.of_map _
  have hf : (v.tasks.erase ⟨client, .running⟩).filter (·.state = .running) =
      (v.tasks.filter (·.state = .running)).filter (·.client != client) := by
    rw [ht.erase_eq_filter, List.filter_filter, List.filter_filter]
    refine List.filter_congr fun t _ => ?_
    obtain ⟨c, state⟩ := t
    cases state <;> simp [bne]
  rw [clients, clients, List.filter_map]
  exact congrArg _ hf

theorem Distinct.running_finish (hd : v.Distinct) (h : v.isServing client = true)
    (hs : state ≠ .running) : (v.finish client state).running + 1 = v.running := by
  have hl := List.length_erase_add_one (mem_clients.mpr h)
  rwa [hd.nodup_clients.erase_eq_filter, ← clients_finish hs, length_clients, length_clients] at hl

theorem Distinct.accept (hd : v.Distinct) (hnew : ∀ t ∈ v.tasks, t.client ≠ client) {l : Listener}
    {n : Nat} : Distinct ⟨l, n, v.tasks ++ [⟨client, .running⟩]⟩ := by
  have hc : client ∉ v.tasks.map ConnectionTask.client := by
    intro hm
    obtain ⟨t, ht, rfl⟩ := List.mem_map.mp hm
    exact hnew t ht rfl
  rw [Distinct, List.map_append]
  exact List.nodup_append'.mpr ⟨hd, List.nodup_singleton _, by simpa using hc⟩

theorem running_accept {l : Listener} {n : Nat} :
    running ⟨l, n, v.tasks ++ [⟨client, .running⟩]⟩ = v.running + 1 := by
  simp [running]

theorem Distinct.erase (hd : v.Distinct) (t : ConnectionTask) {l : Listener} {n : Nat} :
    Distinct ⟨l, n, v.tasks.erase t⟩ :=
  hd.sublist (List.erase_sublist.map _)

theorem clients_accept {l : Listener} {n : Nat} :
    clients ⟨l, n, v.tasks ++ [⟨client, .running⟩]⟩ = v.clients ++ [client] := by
  simp [clients]

/-- A task that has ended and is collected served nobody any more. -/
theorem Distinct.clients_collect (hd : v.Distinct) {t : ConnectionTask} (h : t.state ≠ .running)
    {l : Listener} {n : Nat} : clients ⟨l, n, v.tasks.erase t⟩ = v.clients := by
  have ht : v.tasks.Nodup := hd.of_map _
  have hf : (v.tasks.erase t).filter (·.state = .running) =
      v.tasks.filter (·.state = .running) := by
    rw [ht.erase_eq_filter, List.filter_filter]
    refine List.filter_congr fun u _ => ?_
    by_cases hu : u.state = .running
    · have hne : u ≠ t := fun he => h (he ▸ hu)
      simp [hu, hne]
    · simp [hu]
  exact congrArg (List.map ConnectionTask.client) hf

theorem running_erase {t : ConnectionTask} (ht : t ∈ v.tasks) {l : Listener} {n : Nat} :
    running ⟨l, n, v.tasks.erase t⟩ + (if t.state = .running then 1 else 0) = v.running := by
  rw [running, running, (List.perm_cons_erase ht).countP_eq, List.countP_cons]
  simp

theorem running_abort (h : v.isServing client = true) : (v.abort client).running + 1 = v.running :=
  running_erase (isServing_iff.mp h)

theorem running_collect {t : ConnectionTask} (ht : t ∈ v.tasks) (h : t.state ≠ .running)
    {l : Listener} {n : Nat} : running ⟨l, n, v.tasks.erase t⟩ = v.running := by
  have he := running_erase ht (l := l) (n := n)
  rwa [if_neg h, Nat.add_zero] at he

end Serving

/-- The run fits a server that publishes this state and has so many connections open, all other runs
having ended. -/
def ServerRun.Fits (state : ServerState) (active : Nat) : ServerRun → Prop
  | .called => (state = .idle ∨ state = .closed) ∧ active = 0
  | .binding => state = .idle ∧ active = 0
  | .accepting v => (∃ a, state = .listening a) ∧ v.Distinct ∧ active = v.running
  | .pausing v _ => (∃ a, state = .listening a) ∧ v.Distinct ∧ active = v.running
  | .draining v _ _ => state = .draining ∧ v.Distinct ∧ active = v.running
  | .aborting v (.failed _) => (∃ a, state = .listening a) ∧ v.Distinct ∧ active = v.running
  | .aborting v (.expired _) => state = .draining ∧ v.Distinct ∧ active = v.running
  | .ended result => state = .closed ∧ active = 0 ∧ result ≠ .panicked

namespace Server

variable {s s' : Server} {r r' : ServerRun} {m : RunMove} {o : Observed} {options : ServerOptions}

theorem Moves.fits (hm : s.Moves r m o r' s') (hf : r.Fits s.state s.active)
    (hmax : s.options.maxConnections ≤ Pool.maxSize) : r'.Fits s'.state s'.active := by
  cases hm with
  | refuse h => exact ⟨h, hf.2, by simp⟩
  | skip => exact ⟨rfl, hf.2, by simp⟩
  | begin h => exact ⟨hf.1.resolve_right h, hf.2⟩
  | bindFail => exact ⟨rfl, hf.2, by simp⟩
  | bindPanic a h => omega
  | listen a => exact ⟨⟨a, rfl⟩, List.nodup_nil, hf.2⟩
  | acquire => exact hf
  | accept v client peer h hnew =>
    obtain ⟨hs, hd, ha⟩ := hf
    exact ⟨hs, hd.accept hnew, by rw [Serving.running_accept, ← ha]⟩
  | retry => exact hf
  | fail => exact hf
  | collect v t ht h =>
    obtain ⟨hs, hd, ha⟩ := hf
    exact ⟨hs, hd.erase t, by rw [Serving.running_collect ht h, ← ha]⟩
  | resume => exact hf
  | stopAccepting v | stopPausing v => exact ⟨rfl, hf.2⟩
  | finishAccepting v client crashed h | finishPausing v left client crashed h
  | finishDraining v inFlight left client crashed h =>
    obtain ⟨hs, hd, ha⟩ := hf
    have hne : (if crashed then TaskState.crashed else .done) ≠ .running := by
      cases crashed <;> simp
    have hr := hd.running_finish h hne
    exact ⟨hs, hd.finish, by simp only; omega⟩
  | drained v inFlight left h => exact ⟨rfl, by rw [hf.2.2, h], by simp⟩
  | expire => exact hf
  | abort v why client h =>
    have hr := Serving.running_abort h
    cases why with
    | failed | expired =>
      obtain ⟨hs, hd, ha⟩ := hf
      exact ⟨hs, hd.erase _, by simp only; omega⟩
  | closeFailed v fault h => exact ⟨rfl, by rw [hf.2.2, h], by simp⟩
  | closeExpired v report h => exact ⟨rfl, by rw [hf.2.2, h], by simp⟩

/-- A run that finds the server closed ends at once and changes nothing. -/
theorem Moves.of_closed (hm : s.Moves r m o r' s') (hf : r.Fits s.state s.active)
    (hc : s.state = .closed) : r' = .ended (.failed .serverClosed) ∧ s' = s := by
  rw [hc] at hf
  cases hm with
  | refuse => exact ⟨rfl, rfl⟩
  | skip h => exact absurd hc h
  | begin h => exact absurd hc h
  | abort v why => cases why <;> simp [ServerRun.Fits] at hf
  | _ => simp [ServerRun.Fits] at hf

theorem fits_pass {state : ServerState} {active nanos : Nat} :
    (r.pass nanos).Fits state active ↔ r.Fits state active := by
  cases r <;> rfl

/-- All runs but the last one have ended, and every run fits the server. -/
structure InTurn (options : ServerOptions) (s : Server) : Prop where
  options_eq : s.options = options
  fresh : s.runs = [] → s.state = .idle ∧ s.active = 0
  past : ∀ i, i + 1 < s.runs.length → ∃ result, s.runs[i]? = some (.ended result)
  fits : ∀ (i : Nat) r, s.runs[i]? = some r → r.Fits s.state s.active

namespace InTurn

theorem new (options : ServerOptions) : InTurn options (Server.new options) := by
  constructor <;> simp [Server.new]

theorem call (t : InTurn options s) (hall : ∀ r ∈ s.runs, r.isEnded = true) :
    InTurn options { s with runs := s.runs ++ [.called] } := by
  have hended : ∀ i, i < s.runs.length → ∃ result, s.runs[i]? = some (.ended result) := by
    intro i hi
    have he := hall _ (List.getElem_mem hi)
    rw [List.getElem?_eq_getElem hi]
    cases hr : s.runs[i] with
    | ended result => exact ⟨result, rfl⟩
    | _ => simp [hr, ServerRun.isEnded] at he
  refine ⟨t.options_eq, by simp, fun i hi => ?_, fun i r hr => ?_⟩
  · have hi : i < s.runs.length := by simpa using hi
    simpa [List.getElem?_append_left hi] using hended i hi
  · obtain hr | ⟨-, rfl⟩ := getElem?_called hr
    · exact t.fits i r hr
    · by_cases hn : s.runs = []
      · exact ⟨.inl (t.fresh hn).1, (t.fresh hn).2⟩
      · obtain ⟨result, hlast⟩ := hended 0 (List.length_pos_iff.mpr hn)
        have hf := t.fits 0 _ hlast
        exact ⟨.inr hf.1, hf.2.1⟩

/-- A run that moves is the last one. -/
theorem last (t : InTurn options s) {i : Nat} (hr : s.runs[i]? = some r) (h : r.isEnded = false) :
    i + 1 = s.runs.length := by
  have hi := (List.getElem?_eq_some_iff.mp hr).1
  by_contra hne
  obtain ⟨result, he⟩ := t.past i (by omega)
  rw [hr, Option.some.injEq] at he
  rw [he] at h
  cases h

/-- While one run moves any other has ended, so that the server was closed before and nothing changes. -/
theorem other (t : InTurn options s) {i j : Nat} {q : ServerRun} (hr : s.runs[i]? = some r)
    (hm : s.Moves r m o r' s') (hij : i ≠ j) (hq : s.runs[j]? = some q) : s' = s := by
  have hlast := t.last hr hm.not_isEnded
  have hj := (List.getElem?_eq_some_iff.mp hq).1
  obtain ⟨result, he⟩ := t.past j (by omega)
  exact (hm.of_closed (t.fits i r hr) (t.fits j _ he).1).2

theorem run (t : InTurn options s) (hmax : options.maxConnections ≤ Pool.maxSize) {i : Nat}
    (hr : s.runs[i]? = some r) (hm : s.Moves r m o r' s') :
    InTurn options { s' with runs := s.runs.set i r' } := by
  have hlast := t.last hr hm.not_isEnded
  have hi := (List.getElem?_eq_some_iff.mp hr).1
  refine ⟨hm.options_eq.trans t.options_eq, fun hn => ?_, fun j hj => ?_, fun j q hq => ?_⟩
  · have hl := List.length_eq_zero_iff.mpr hn
    rw [List.length_set] at hl
    omega
  · rw [List.length_set] at hj
    rw [List.getElem?_set_ne (by omega)]
    exact t.past j hj
  · obtain ⟨rfl, rfl⟩ | ⟨hij, hq⟩ := getElem?_moved hq
    · exact hm.fits (t.fits i r hr) (t.options_eq ▸ hmax)
    · obtain rfl := t.other hr hm hij hq
      exact t.fits j q hq

theorem step (t : InTurn options s) (hmax : options.maxConnections ≤ Pool.maxSize) {e : ServerEvent}
    (hs : s.Steps e o s') (hcall : e = .call → ∀ r ∈ s.runs, r.isEnded = true) :
    InTurn options s' := by
  cases hs with
  | call => exact t.call (hcall rfl)
  | interrupt => exact ⟨t.options_eq, t.fresh, t.past, t.fits⟩
  | pass nanos =>
    refine ⟨t.options_eq, fun hn => t.fresh (List.map_eq_nil_iff.mp hn), fun i hi => ?_,
      fun i r hr => ?_⟩
    · obtain ⟨result, he⟩ := t.past i (by simpa using hi)
      exact ⟨result, by simp [he, ServerRun.pass]⟩
    · obtain ⟨q, hq, rfl⟩ := getElem?_passed hr
      exact fits_pass.mpr (t.fits i q hq)
  | run i r m o r' s' hr hm => exact t.run hmax hr hm

end InTurn

end Server

end MetricsGateway
