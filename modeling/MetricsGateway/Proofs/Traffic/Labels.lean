import Mathlib.Data.Finset.Prod
import Mathlib.Data.Set.Finite.Range
import Mathlib.Order.Interval.Finset.Nat
import MetricsGateway.Proofs.Traffic.Buffers
import MetricsGateway.Proofs.Traffic.Counts

/-!
The labels under which requests are counted. Main statement: handlers and statuses come from fixed finite
sets whatever clients and upstreams send, so that the methods alone decide how many series there are; these
are counted as they come, and each new one makes a new series.
-/

namespace MetricsGateway

/-! ## Statuses -/

/-- The statuses that a response can have. -/
def Status.codes : Finset Nat := Finset.Icc 100 999

namespace Reply

variable {bs : Bytes} {h : Head} {reply : Reply} {method : String} {fuel n : Nat}

theorem le_of_digit? {b : UInt8} (h : digit? b = some n) : n ≤ 9 := by
  unfold digit? at h
  split at h
  · next hb =>
    obtain rfl := Option.some.inj h
    have hle : b ≤ 57 := (of_decide_eq_true (Bool.and_eq_true_iff.mp hb).2)
    have hnat : b.toNat ≤ 57 := UInt8.le_iff_toNat_le.mp hle
    omega
  · cases h

theorem le_of_readStatusLine {isOld : Bool} {rest : Bytes} (h : readStatusLine bs = some (n, isOld, rest)) :
    n ≤ 999 := by
  unfold readStatusLine at h
  extract_lets bytes version at h
  split at h
  · split at h
    · next hundreds tens ones after hhundreds htens hones hafter =>
      obtain ⟨rfl, -⟩ := Prod.mk.inj (Option.some.inj h)
      have hle := le_of_digit? hhundreds
      have hle' := le_of_digit? htens
      have hle'' := le_of_digit? hones
      omega
    · cases h
  · cases h

theorem codes_of_readHead (hread : readHead bs = some h) : h.status ∈ Status.codes := by
  unfold readHead at hread
  split at hread
  · cases hread
  · next status isOld rest hline =>
    split at hread
    · cases hread
    · next hlow =>
      obtain ⟨fields, -, rfl⟩ := Option.map_eq_some_iff.mp hread
      exact Finset.mem_Icc.mpr ⟨Nat.le_of_not_lt hlow, le_of_readStatusLine hline⟩

theorem codes_of_readAnswer (hread : readAnswer fuel bs = some h) : h.status ∈ Status.codes := by
  induction fuel generalizing bs with
  | zero => cases hread
  | succ fuel ih =>
    simp only [readAnswer] at hread
    split at hread
    · cases hread
    · next head hhead =>
      split at hread
      · exact ih hread
      · obtain rfl := Option.some.inj hread
        exact codes_of_readHead hhead

theorem codes_of_read? (hread : read? method bs = some reply) : reply.status ∈ Status.codes := by
  obtain ⟨head, hhead, hframes⟩ := Option.bind_eq_some_iff.mp hread
  obtain ⟨frames, -, rfl⟩ := Option.map_eq_some_iff.mp hframes
  exact codes_of_readAnswer hhead

end Reply

namespace Proxy

variable {p : Proxy} {upstream : Upstream} {path : List Char} {r : Request} {pending : Pending}
  {answer : Option Bytes} {contact : Contact}

theorem codes_finish : (p.finish pending answer).1.response.status ∈ Status.codes := by
  cases hreply : answer.bind (Reply.read? pending.sent.method) with
  | none =>
    rw [(finish_of_no_reply hreply).1]
    decide
  | some reply =>
    obtain ⟨bytes, -, hread⟩ := Option.bind_eq_some_iff.mp hreply
    simp only [finish, hreply]
    exact Reply.codes_of_read? hread

theorem codes_forward : (p.forward contact upstream path r).1.response.status ∈ Status.codes := by
  unfold forward
  cases hstart : p.start upstream path r with
  | error f =>
    simp only [(start_refused hstart).1]
    decide
  | ok started => exact codes_finish

end Proxy

namespace Gateway

variable {g : Gateway} {s : Surroundings} {r : Request} {v : Visit} {bytes : Option Bytes}

theorem codes_respond : (g.respond s r).1.response.status ∈ Status.codes := by
  cases h : (Route.ofPath g.options.profile r.target.path).forwarding? r.method with
  | none =>
    have hown := (respond_alone (g := g) (s := s) h).2.1
    exact (by decide : ∀ status ∈ ownStatuses, status ∈ Status.codes) _ hown
  | some forwarding =>
    rw [respond_of_forwarding? h, status_relay]
    exact Proxy.codes_forward

theorem codes_conclude : (g.conclude v bytes).1.response.status ∈ Status.codes := by
  simp only [conclude, status_relay]
  exact Proxy.codes_finish

end Gateway

/-! ## Counters -/

namespace Metrics

variable {m : Metrics} {s : Series}

/-- The series that there are counters of. -/
def recorded (m : Metrics) : List Series := m.counts.map Prod.fst

theorem positive_raised {counts : List (Series × Nat)} (h : ∀ c ∈ counts, 0 < c.2) (s : Series) :
    ∀ c ∈ raised s counts, 0 < c.2 := by
  induction counts with
  | nil =>
    intro c hc
    obtain rfl := List.mem_singleton.mp hc
    exact Nat.one_pos
  | cons c rest ih =>
    obtain ⟨t, n⟩ := c
    obtain ⟨hn, hrest⟩ := List.forall_mem_cons.mp h
    unfold raised
    split
    · exact List.forall_mem_cons.mpr ⟨Nat.succ_pos n, hrest⟩
    · exact List.forall_mem_cons.mpr ⟨hn, ih hrest⟩

/-- Each counter was raised. -/
def Positive (m : Metrics) : Prop := ∀ c ∈ m.counts, 0 < c.2

theorem Positive.record (h : m.Positive) (r : Record) : (m.record r).Positive := by
  cases r with
  | request handler method status => exact positive_raised (positive_raised h _) _
  | proxied | forcedShutdown | actorExit => exact positive_raised h _
  | openConnections n => exact h

theorem mem_recorded_of_count_pos (h : 0 < m.count s) : s ∈ m.recorded := by
  unfold count at h
  cases hs : m.counts.lookup s with
  | none =>
    rw [hs] at h
    cases h
  | some n =>
    obtain ⟨before, after, hcounts, -⟩ := List.lookup_eq_some_iff.mp hs
    rw [recorded, hcounts, List.map_append]
    exact List.mem_append_right _ List.mem_cons_self

theorem Positive.count_pos (h : m.Positive) (hs : s ∈ m.recorded) : 0 < m.count s := by
  obtain ⟨⟨t, n⟩, hmem, rfl⟩ := List.mem_map.mp hs
  have hsome : (m.counts.lookup t).isSome :=
    List.lookup_isSome_iff.mpr ⟨(t, n), hmem, beq_self_eq_true t⟩
  obtain ⟨k, hk⟩ := Option.isSome_iff_exists.mp hsome
  obtain ⟨before, after, hcounts, -⟩ := List.lookup_eq_some_iff.mp hk
  have hentry : (t, k) ∈ m.counts := by
    rw [hcounts]
    exact List.mem_append_right _ List.mem_cons_self
  have hpos : 0 < k := h (t, k) hentry
  rwa [count, hk]

end Metrics

/-! ## Runs -/

/-- All handlers. -/
def Handler.all : Finset Handler := {.metrics, .healthy, .ready, .write, .query, .debug, .other}

theorem Handler.mem_all (handler : Handler) : handler ∈ all := by
  cases handler <;> decide

/-- The labels under which requests with these methods can be counted. -/
def Gateway.labels (methods : Finset String) : Finset (Handler × String × Nat) :=
  Handler.all ×ˢ methods ×ˢ Status.codes

namespace Visits

open Gateway

variable {o : Options} {recording : Bool} {s s' : Visits} {m : VisitMove} {moves : List VisitMove}
  {report : VisitReport} {reports : List VisitReport} {handler : Handler} {method : String} {status : Nat}

theorem codes_of_move? {r : Request} {h : Handled} (hmove : s.move? m = some (.responds r h, s')) :
    h.response.status ∈ Status.codes := by
  cases m with
  | arrive surroundings r =>
    simp only [move?] at hmove
    split at hmove
    · cases hmove
    · cases hmove
      exact codes_respond
  | answer i bytes =>
    obtain ⟨v, -, heq⟩ := Option.map_eq_some_iff.mp hmove
    cases heq
    exact codes_conclude
  | leave i =>
    obtain ⟨v, -, heq⟩ := Option.map_eq_some_iff.mp hmove
    cases heq
  | drop i =>
    obtain ⟨b, -, heq⟩ := Option.map_eq_some_iff.mp hmove
    cases heq

theorem codes_of_run (h : (new o recording).run? moves = some (reports, s)) :
    ∀ r handled, .responds r handled ∈ reports → handled.response.status ∈ Status.codes := by
  refine History.run?_induction
    (P := fun _ reports _ => ∀ r handled, .responds r handled ∈ reports →
      handled.response.status ∈ Status.codes)
    nofun (fun es os t e report u _ ih hstep r handled hmem => ?_) h
  obtain hmem | hmem := List.mem_append.mp hmem
  · exact ih r handled hmem
  · obtain rfl := List.mem_singleton.mp hmem
    exact codes_of_move? hstep

theorem Moves.positive (h : s.Moves report s') (hs : s.gateway.metrics.Positive) :
    s'.gateway.metrics.Positive := by
  cases h with
  | completes c hoptions hwaiting =>
    cases c with
    | forwarded hbound hmetrics =>
      rw [hmetrics]
      exact (hs.record _).record _
    | alone hnot hstatus hmetrics =>
      rw [hmetrics]
      exact hs.record _
  | waits hbound => exact hs
  | silent hmetrics hoptions hwaiting => rwa [hmetrics]

theorem positive_of_run (h : (new o recording).run? moves = some (reports, s)) :
    s.gateway.metrics.Positive := by
  refine History.run?_induction (P := fun _ _ s => s.gateway.metrics.Positive) nofun
    (fun es os t e report u hrun ih hstep => ?_) h
  exact (moves_of_move? (accounted_of_run hrun).bound hstep).positive ih

/-- What is recorded about requests are the labels of one that has its response. -/
theorem exists_of_recorded (h : (new o recording).run? moves = some (reports, s))
    (hrecorded : .requests handler method status ∈ s.gateway.metrics.recorded) :
    ∃ r handled, .responds r handled ∈ reports ∧
      handler = (Route.ofPath o.profile r.target.path).handler ∧ method = r.method ∧
        status = handled.response.status := by
  have hpos := (positive_of_run h).count_pos hrecorded
  rw [(accounted_of_run h).count_requests, List.countP_pos_iff] at hpos
  obtain ⟨report, hmem, hcounted⟩ := hpos
  cases report with
  | responds r handled => exact ⟨r, handled, hmem, of_decide_eq_true hcounted⟩
  | waits v => cases hcounted
  | silent => cases hcounted

/-- However requests come in and are answered, what is recorded about them stays within one finite set that
depends on their methods alone: on no path, header, body or order of theirs, and on nothing that an
upstream answers. -/
theorem recorded_within_labels {methods : Finset String}
    (h : (new o recording).run? moves = some (reports, s))
    (hmethods : VisitReport.methods reports ⊆ methods)
    (hrecorded : .requests handler method status ∈ s.gateway.metrics.recorded) :
    (handler, method, status) ∈ labels methods := by
  obtain ⟨r, handled, hmem, rfl, rfl, rfl⟩ := exists_of_recorded h hrecorded
  have hmethod : r.method ∈ VisitReport.methods reports :=
    List.mem_toFinset.mpr (List.mem_filterMap.mpr ⟨_, hmem, rfl⟩)
  exact Finset.mem_product.mpr ⟨Handler.mem_all _, Finset.mem_product.mpr
    ⟨hmethods hmethod, codes_of_run h r handled hmem⟩⟩

/-- A request with this method to a path that leads nowhere. -/
def astray (method : String) : Request := ⟨method, ⟨none, [], "/x".toList, none⟩, [], [], false⟩

theorem exists_run_astray (method : String) : ∃ reports s status,
    (new (inFrontOf host).options false).run? [.arrive answering (astray method)] = some (reports, s) ∧
      VisitReport.methods reports = {method} ∧
      .requests .other method status ∈ s.gateway.metrics.recorded := by
  let s := new (inFrontOf host).options false
  let out := s.gateway.respond answering (astray method)
  have hroute : Route.ofPath (inFrontOf host).options.profile "/x".toList = .unmatched := by decide
  have hnone : s.gateway.visit? answering.newId (astray method) = none := by
    have hpath : Route.ofPath s.gateway.options.profile (astray method).target.path = .unmatched := hroute
    simp only [visit?, identified_target, hpath, Route.forwarding?]
  have hrun : s.run? [.arrive answering (astray method)] =
      some ([.responds (astray method) out.1], (s.respond (astray method) out).2) := by
    refine History.run?_single ?_
    simp only [move?, hnone]
    rfl
  refine ⟨_, _, out.1.response.status, hrun, rfl, Metrics.mem_recorded_of_count_pos ?_⟩
  rw [(accounted_of_run hrun).count_requests, List.countP_singleton, if_pos]
  · exact Nat.one_pos
  · refine decide_eq_true ⟨?_, rfl, rfl⟩
    rw [show (astray method).target.path = "/x".toList from rfl, hroute]
    rfl

theorem recorded_within_labels_astray : ∃ reports s,
    (new (inFrontOf host).options false).run? [.arrive answering (astray "PURGE")] = some (reports, s) ∧
      VisitReport.methods reports ⊆ {"PURGE"} ∧
      .requests .other "PURGE" 404 ∈ s.gateway.metrics.recorded ∧
      (.other, "PURGE", 404) ∈ labels {"PURGE"} := by
  have hrun : ((new (inFrontOf host).options false).run? [.arrive answering (astray "PURGE")]).map
      (fun (reports, s) => (reports.filterMap VisitReport.method?, s.gateway.metrics.recorded)) =
        some (["PURGE"], [.requests .other "PURGE" 404, .durations .other]) := by
    decide +kernel
  obtain ⟨⟨reports, s⟩, h, heq⟩ := Option.map_eq_some_iff.mp hrun
  obtain ⟨hmethods, hrecorded⟩ := Prod.mk.inj heq
  have hsubset : VisitReport.methods reports ⊆ {"PURGE"} := by
    rw [VisitReport.methods, hmethods]
    rfl
  have hmem : .requests .other "PURGE" 404 ∈ s.gateway.metrics.recorded := by
    rw [hrecorded]
    exact List.mem_cons_self
  exact ⟨reports, s, h, hsubset, hmem, recorded_within_labels h hsubset hmem⟩

/-- There is no such set for all methods, if only those are allowed that requests can have. -/
theorem labels_unbounded : ¬ ∃ triples : Finset (Handler × String × Nat),
    ∀ o recording moves reports s, (new o recording).run? moves = some (reports, s) →
      (∀ method ∈ VisitReport.methods reports, isMethod method) →
      ∀ handler method status, .requests handler method status ∈ s.gateway.metrics.recorded →
        (handler, method, status) ∈ triples := by
  rintro ⟨triples, htriples⟩
  let token (n : Nat) : String := String.ofList (List.replicate (n + 1) 'A')
  have hinjective : Function.Injective token := by
    intro n k h
    have hlength := congrArg (fun method => method.toList.length) h
    simpa [token] using hlength
  have hlegal (n : Nat) : isMethod (token n) := by
    have htoken : HeaderField.isTokenChar 'A' := by decide
    simp [token, isMethod, htoken]
  obtain ⟨method, ⟨n, rfl⟩, hnew⟩ :=
    (Set.infinite_range_of_injective hinjective).exists_notMem_finset (triples.image fun t => t.2.1)
  obtain ⟨reports, s, status, hrun, hmethods, hrecorded⟩ := exists_run_astray (token n)
  refine hnew (Finset.mem_image.mpr ⟨(.other, token n, status), ?_, rfl⟩)
  refine htriples _ _ _ reports s hrun (fun method hmethod => ?_) .other (token n) status hrecorded
  rw [hmethods, Finset.mem_singleton] at hmethod
  exact hmethod ▸ hlegal n

end Visits

end MetricsGateway
