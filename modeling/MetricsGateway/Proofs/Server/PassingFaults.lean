import MetricsGateway.Proofs.Server.Closing
import MetricsGateway.Proofs.Server.Interrupted
import MetricsGateway.Proofs.Server.Lifecycle
import MetricsGateway.Proofs.Server.Retries

/-!
Faults for which a caller of accept is told to try again. Main statement: a run that meets no others goes on
accepting unless one of them comes from the network, and then it ends.
-/

namespace MetricsGateway

namespace Failure

/-- The numbers of faults that accept passes on from the network of the incoming connection: ENETDOWN, EPROTO,
ENOPROTOOPT, EHOSTDOWN, ENONET, EHOSTUNREACH, EOPNOTSUPP and ENETUNREACH. -/
def networkCodes : List Nat := [100, 71, 92, 112, 64, 113, 95, 101]

/-- The numbers of all faults after which accept is to be tried again: those of the network, and ECONNABORTED,
EINTR, EAGAIN, EMFILE, ENFILE, ENOBUFS and ENOMEM. -/
def temporaryCodes : List Nat := [103, 4, 11, 24, 23, 105, 12] ++ networkCodes

variable {n : Nat}

theorem passes_code_iff (h : n ∈ temporaryCodes) : passes (.code n) = true ↔ n ∉ networkCodes := by
  revert n
  decide

theorem mem_temporaryCodes (h : n ∈ networkCodes) : n ∈ temporaryCodes :=
  List.mem_append_right _ h

end Failure

namespace ServerRun

variable {r : ServerRun} {results : List (Except SystemFault Nat)} {nanos : Nat}

/-- What a run accepts with, now or after its pause. -/
def accepts? : ServerRun → Option Serving
  | .accepting v | .pausing v _ => some v
  | _ => none

theorem serving?_of_accepts? {v : Serving} (h : r.accepts? = some v) : r.serving? = some v := by
  cases r with
  | accepting | pausing => exact h
  | _ => cases h

/-- The places of a run that has listened. -/
def isPastBinding : ServerRun → Bool
  | .accepting _ | .pausing _ _ | .draining _ _ _ | .aborting _ _ | .ended .ok | .ended (.failed (.accept _)) => true
  | _ => false

theorem isPastBinding_pass : (r.pass nanos).isPastBinding = r.isPastBinding := by
  cases r <;> rfl

theorem isPastBinding_of_accepts? {v : Serving} (h : r.accepts? = some v) : r.isPastBinding = true := by
  cases r with
  | accepting | pausing => rfl
  | _ => cases h

theorem Agrees.allPass_of_accepts? {v : Serving} (h : r.Agrees results) (hv : r.accepts? = some v) :
    AllPass results := by
  cases r with
  | accepting | pausing => exact h.2
  | _ => cases hv

/-- A run that has listened accepts or stops, all faults having passed, or the last fault keeps it from both. -/
theorem Agrees.accepts_or (h : r.Agrees results) (hpast : r.isPastBinding = true) :
    (r.accepts?.isSome = true ∨ r.isStopping = true) ∧ AllPass results ∧
        (∀ fault, r.failure? ≠ some (.accept fault)) ∨
      ∃ fault, r.accepts? = none ∧ r.failure? = some (.accept fault) ∧ .error fault ∈ results ∧
        Failure.passes fault = false := by
  have hlast {fault : SystemFault} {earlier : List (Except SystemFault Nat)}
      (he : results = earlier ++ [.error fault]) : .error fault ∈ results := by
    rw [he]
    exact List.mem_append_right _ List.mem_cons_self
  cases r with
  | called | binding => cases hpast
  | accepting v | pausing v left => exact .inl ⟨.inl rfl, h.2, nofun⟩
  | draining v inFlight left => exact .inl ⟨.inr rfl, h, nofun⟩
  | aborting v why =>
    cases why with
    | expired report => exact .inl ⟨.inr rfl, h, nofun⟩
    | failed fault =>
      obtain ⟨earlier, he, hp, -⟩ := h
      exact .inr ⟨fault, rfl, rfl, hlast he, hp⟩
  | ended result =>
    cases result with
    | ok => exact .inl ⟨.inr rfl, h, nofun⟩
    | panicked => cases hpast
    | failed f =>
      cases f with
      | accept fault =>
        obtain ⟨earlier, he, hp, -⟩ := h
        exact .inr ⟨fault, rfl, rfl, hlast he, hp⟩
      | _ => cases hpast

end ServerRun

theorem ServerEvent.results_append {i : Nat} {before after : List ServerEvent} :
    results i (before ++ after) = results i before ++ results i after := by
  simp only [results, List.filterMap_append]

namespace Server

variable {s s' t : Server} {r r' : ServerRun} {m : RunMove} {o : Observed} {v : Serving} {options : ServerOptions}
  {before after : List ServerEvent} {said answers : List Observed} {e : ServerEvent} {i client : Nat} {peer : String}

/-! ## Having listened -/

theorem Moves.isPastBinding (hm : s.Moves r m o r' s') (h : r.isPastBinding = true) : r'.isPastBinding = true := by
  cases hm with
  | refuse | skip | begin | bindFail | bindPanic | listen => cases h
  | _ => rfl

theorem Steps.isPastBinding (hs : s.Steps e o s') (hr : s.runs[i]? = some r) (h : r.isPastBinding = true) :
    ∃ r', s'.runs[i]? = some r' ∧ r'.isPastBinding = true := by
  have hi : i < s.runs.length := (List.getElem?_eq_some_iff.mp hr).1
  cases hs with
  | call => exact ⟨r, (List.getElem?_append_left hi).trans hr, h⟩
  | interrupt cause => exact ⟨r, hr, h⟩
  | pass nanos =>
    refine ⟨r.pass nanos, ?_, ServerRun.isPastBinding_pass.trans h⟩
    rw [List.getElem?_map, hr, Option.map_some]
  | run j q m o q' s' hq hm =>
    by_cases hij : j = i
    · subst j
      obtain rfl := Option.some.inj (hr.symm.trans hq)
      exact ⟨q', List.getElem?_set_self hi, hm.isPastBinding h⟩
    · exact ⟨r, (List.getElem?_set_ne hij).trans hr, h⟩

theorem isPastBinding_of_run (hr : t.runs[i]? = some r) (hpast : r.isPastBinding = true)
    (h : t.run? after = some (said, s)) : ∃ r', s.runs[i]? = some r' ∧ r'.isPastBinding = true := by
  refine History.run?_induction (P := fun _ _ s => ∃ r', s.runs[i]? = some r' ∧ r'.isPastBinding = true)
    ⟨r, hr, hpast⟩ (fun after said s e o s' _ ih hs => ?_) h
  obtain ⟨r, hr, hpast⟩ := ih
  exact (steps_of_step? hs).isPastBinding hr hpast

/-! ## Accepting the next client -/

/-- The run goes on accepting: when it serves fewer clients than it may and a further one arrives, it comes to
serve this one without any other client's doing. -/
def AcceptsNext (s : Server) (i : Nat) : Prop :=
  ∃ r v, s.runs[i]? = some r ∧ r.accepts? = some v ∧
    (v.running < s.options.maxConnections → ∀ client peer, (∀ task ∈ v.tasks, task.client ≠ client) →
      ∃ own said u o t w, (∀ e ∈ own, e.isOwn = true) ∧ s.run? own = some (said, u) ∧
        u.step? (.run i (.accept client peer)) = some (o, t) ∧
        t.runs[i]? = some (.accepting w) ∧ w.isServing client = true)

theorem exists_accept_of_permitted (hr : s.runs[i]? = some (.accepting v)) (hp : v.listener.permitted = true)
    (hnew : ∀ task ∈ v.tasks, task.client ≠ client) : ∃ o t w,
    s.step? (.run i (.accept client peer)) = some (o, t) ∧ t.runs[i]? = some (.accepting w) ∧
      w.isServing client = true := by
  have hm : s.move? (.accepting v) (.accept client peer) = some (s.accept v client peer) := by
    have hfresh : v.tasks.any (·.client = client) = false := by simpa using hnew
    simp only [move?, hp, hfresh, Bool.not_false, Bool.and_self, if_true]
  refine ⟨_, _, _, step?_run hr hm, List.getElem?_set_self (List.getElem?_eq_some_iff.mp hr).1, ?_⟩
  exact Serving.isServing_iff.mpr (List.mem_append_right _ List.mem_cons_self)

/-- While there is room a run can take the permit for its next attempt. -/
theorem exists_acquire {limit : Nat} (hr : s.runs[i]? = some (.accepting v)) (hb : v.Balanced limit)
    (hroom : v.running < limit) (hp : v.listener.permitted = false) : ∃ o t listener,
    s.step? (.run i .acquire) = some (o, t) ∧ t.runs[i]? = some (.accepting { v with listener }) ∧
      listener.permitted = true := by
  have hfree : v.listener.permits.free ≠ 0 := by
    have hadd := hb.free_add
    rw [hp, Bool.toNat_false] at hadd
    omega
  have hm : s.move? (.accepting v) .acquire =
      some (.none, .accepting { v with listener := v.listener.acquire }, s) := by
    simp [move?, hp, hfree]
  refine ⟨_, _, _, step?_run hr hm, List.getElem?_set_self (List.getElem?_eq_some_iff.mp hr).1, ?_⟩
  rw [Listener.acquire, hp]
  exact (Pool.take_of_free hfree).1

theorem exists_accept_of_accepting {limit : Nat} (hr : s.runs[i]? = some (.accepting v)) (hb : v.Balanced limit)
    (hroom : v.running < limit) (hnew : ∀ task ∈ v.tasks, task.client ≠ client) : ∃ own said u o t w,
    (∀ e ∈ own, e.isOwn = true) ∧ s.run? own = some (said, u) ∧
      u.step? (.run i (.accept client peer)) = some (o, t) ∧ t.runs[i]? = some (.accepting w) ∧
      w.isServing client = true := by
  cases hp : v.listener.permitted with
  | true =>
    obtain ⟨o, t, w, haccept, ht, hw⟩ := exists_accept_of_permitted hr hp hnew
    exact ⟨[], [], s, o, t, w, nofun, rfl, haccept, ht, hw⟩
  | false =>
    obtain ⟨o, u, listener, hstep, hu, hp⟩ := exists_acquire hr hb hroom hp
    obtain ⟨o', t, w, haccept, ht, hw⟩ := exists_accept_of_permitted hu hp hnew
    exact ⟨[.run i .acquire], [o], u, o', t, w, by simp [ServerEvent.isOwn, RunMove.isOwn],
      History.run?_single hstep, haccept, ht, hw⟩

theorem acceptsNext_of_accepts? (b : Balance options before s) (hr : s.runs[i]? = some r)
    (hv : r.accepts? = some v) : s.AcceptsNext i := by
  refine ⟨r, v, hr, hv, fun hroom client peer hnew => ?_⟩
  have hb : v.Balanced s.options.maxConnections :=
    b.options_eq ▸ (b.balanced i r hr v (ServerRun.serving?_of_accepts? hv)).1
  cases r with
  | accepting v' =>
    cases hv
    exact exists_accept_of_accepting hr hb hroom hnew
  | pausing v' left =>
    cases hv
    obtain ⟨waited, t, hwait, ht⟩ := exists_resume hr
    obtain ⟨own, said, u, o, t', w, hown, hrun, haccept, ht', hw⟩ :=
      exists_accept_of_accepting ht hb hroom hnew
    have hall : ∀ e ∈ .pass left :: .run i .resume :: own, ServerEvent.isOwn e = true :=
      List.forall_mem_cons.mpr ⟨rfl, List.forall_mem_cons.mpr ⟨rfl, hown⟩⟩
    exact ⟨_, waited ++ said, u, o, t', w, hall, History.run?_append hwait hrun, haccept, ht', hw⟩
  | _ => cases hv

/-- A run that accepts and from then on meets only faults after which accept is to be tried again. It goes on
accepting until it is interrupted unless the network of an incoming connection is at fault, and then it ends. -/
theorem acceptsNext_unless_network_fault (ht : (new options).run? before = some (answers, t))
    (hr : t.runs[i]? = some r) (hv : r.accepts? = some v) (h : t.run? after = some (said, s))
    (hfaults : ∀ fault, .error fault ∈ ServerEvent.results i after →
      ∃ n ∈ Failure.temporaryCodes, fault = .code n) :
    ((∃ r' fault, s.runs[i]? = some r' ∧ r'.failure? = some (.accept fault)) ↔
        ∃ n ∈ Failure.networkCodes, .error (.code n) ∈ ServerEvent.results i after) ∧
      (s.stop.raised = false →
        (s.AcceptsNext i ↔ ∀ n ∈ Failure.networkCodes, .error (.code n) ∉ ServerEvent.results i after)) := by
  have hrun : (new options).run? (before ++ after) = some (answers ++ said, s) := History.run?_append ht h
  have hresults : ServerEvent.results i (before ++ after) =
      ServerEvent.results i before ++ ServerEvent.results i after := ServerEvent.results_append
  obtain ⟨r', hr', hpast⟩ := isPastBinding_of_run hr (ServerRun.isPastBinding_of_accepts? hv) h
  have hagrees : r'.Agrees (ServerEvent.results i before ++ ServerEvent.results i after) :=
    hresults ▸ agrees_of_run hrun i r' hr'
  have hsame {q : ServerRun} (hq : s.runs[i]? = some q) : q = r' := Option.some.inj (hq.symm.trans hr')
  obtain ⟨hgoes, hpass, hsound⟩ | ⟨fault, hnone, hfailed, hmem, hp⟩ := hagrees.accepts_or hpast
  · have hno (n : Nat) (hn : n ∈ Failure.networkCodes) :
        .error (.code n) ∉ ServerEvent.results i after := fun hm =>
      (Failure.passes_code_iff (Failure.mem_temporaryCodes hn)).mp (hpass _ (List.mem_append_right _ hm)) hn
    refine ⟨⟨fun ⟨q, fault, hq, hf⟩ => ?_, fun ⟨n, hn, hm⟩ => absurd hm (hno n hn)⟩,
      fun hstop => ⟨fun _ => hno, fun _ => ?_⟩⟩
    · exact absurd (hsame hq ▸ hf) (hsound fault)
    · have hgoes : r'.accepts?.isSome = true := hgoes.resolve_right fun hstops => by
        rw [raised_of_isStopping hrun i r' hr' hstops] at hstop
        cases hstop
      exact acceptsNext_of_accepts? (balance_of_run hrun) hr' (Option.some_get hgoes).symm
  · -- all faults before the run accepted have passed, so this one came later
    have hafter : .error fault ∈ ServerEvent.results i after :=
      (List.mem_append.mp hmem).resolve_left fun hbefore => by
        rw [(agrees_of_run ht i r hr).allPass_of_accepts? hv fault hbefore] at hp
        cases hp
    obtain ⟨n, hn, rfl⟩ := hfaults fault hafter
    have hnetwork : n ∈ Failure.networkCodes := by
      by_contra hother
      rw [(Failure.passes_code_iff hn).mpr hother] at hp
      cases hp
    refine ⟨⟨fun _ => ⟨n, hnetwork, hafter⟩, fun _ => ⟨r', _, hr', hfailed⟩⟩,
      fun _ => ⟨fun ⟨q, w, hq, hw, _⟩ => ?_, fun hno => absurd hafter (hno n hnetwork)⟩⟩
    rw [hsame hq, hnone] at hw
    cases hw

/-- A client that goes away before it is accepted, descriptors that run out, and a client that is accepted. -/
def pressed : List ServerEvent :=
  [.run 0 .acquire, .run 0 (.failAccept (.code 103) 0), .pass 5000000, .run 0 .resume, .run 0 .acquire,
    .run 0 (.failAccept (.code 24) 0), .pass 10000000, .run 0 .resume, .run 0 .acquire,
    .run 0 (.accept 7 "127.0.0.1:40000")]

theorem acceptsNext_of_pressed : ∃ answers t said s,
    (new ⟨"127.0.0.1:9090", 2, .fiveSeconds⟩).run? (expecting.take 3) = some (answers, t) ∧
      t.run? pressed = some (said, s) ∧
      (∀ fault, .error fault ∈ ServerEvent.results 0 pressed → ∃ n ∈ Failure.temporaryCodes, fault = .code n) ∧
      s.AcceptsNext 0 := by
  obtain ⟨answers, t, v, said, s, ht, hr, h, hstop⟩ : ∃ answers t v said s,
      (new ⟨"127.0.0.1:9090", 2, .fiveSeconds⟩).run? (expecting.take 3) = some (answers, t) ∧
        t.runs[0]? = some (.accepting v) ∧ t.run? pressed = some (said, s) ∧ s.stop.raised = false :=
    ⟨_, _, _, _, _, rfl, rfl, rfl, rfl⟩
  have hresults : ServerEvent.results 0 pressed = [.error (.code 103), .error (.code 24), .ok 7] := rfl
  have hfaults : ∀ fault, .error fault ∈ ServerEvent.results 0 pressed →
      ∃ n ∈ Failure.temporaryCodes, fault = .code n := by
    simp [hresults, Failure.temporaryCodes]
  have hnext := (acceptsNext_unless_network_fault ht hr rfl h hfaults).2 hstop
  exact ⟨answers, t, said, s, ht, h, hfaults, hnext.mpr (by simp [hresults, Failure.networkCodes])⟩

/-- One incoming connection with a protocol error, and the server is gone. -/
theorem not_acceptsNext_of_protocol_error : ∃ said s,
    (new ⟨"127.0.0.1:9090", 2, .fiveSeconds⟩).run?
        (expecting ++ [.run 0 (.failAccept (.code 71) 0), .run 0 .close]) = some (said, s) ∧
      71 ∈ Failure.temporaryCodes ∧ s.stop.raised = false ∧
      s.result? 0 = some (.failed (.accept (.code 71))) ∧ ¬s.AcceptsNext 0 := by
  refine ⟨_, _, rfl, by decide, rfl, rfl, ?_⟩
  rintro ⟨r, v, hr, hv, -⟩
  cases hr
  cases hv

end Server

end MetricsGateway
