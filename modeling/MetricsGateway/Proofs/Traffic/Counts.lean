import Mathlib.Algebra.BigOperators.Group.Finset.Piecewise
import MetricsGateway.Proofs.Traffic.Destinations

/-!
What is counted about requests. Main statement: for each upstream and status the forwards that were counted
are the requests that were counted on the route to the upstream, but for those that the router refused by
itself.
-/

namespace MetricsGateway

/-- The label of the route that leads to an upstream. -/
def Upstream.handler : Upstream → Handler
  | query => .query
  | write => .write

/-- The status with which the router itself answers a request on the way to an upstream: another method than
the one for writes, or a path that is no text once it is decoded. -/
def Request.refusal? (r : Request) : Option (Upstream × Nat) :=
  if r.target.path = "/api/metrics/v1/write".toList then
    if r.method = "POST" then none else some (.write, 405)
  else match Text.dropPrefix? "/api/metrics/v1/".toList r.target.path with
    | some (c :: tail) =>
      if (Gateway.queryPath? (c :: tail)).isSome then none else some (.query, 400)
    | _ => none

namespace Gateway

variable {g g' : Gateway} {s : Surroundings} {r : Request} {v : Visit} {upstream : Upstream}
  {path : List Char} {status : Nat} {profile : Bool} {newId : String} {bytes : Option Bytes}

theorem handler_injective {upstream' : Upstream} (h : upstream.handler = upstream'.handler) :
    upstream = upstream' := by
  cases upstream <;> cases upstream' <;> first | rfl | cases h

theorem refusal?_eq (profile : Bool) : r.refusal? =
    match Route.ofPath profile r.target.path with
    | .write => if r.method = "POST" then none else some (.write, 405)
    | .query tail => if (queryPath? tail).isSome then none else some (.query, 400)
    | _ => none := by
  have hwrite := Route.ofPath_eq_write_iff profile r.target.path
  have hquery (tail : List Char) : Route.ofPath profile r.target.path = .query tail ↔ _ :=
    Route.ofPath_eq_query_iff profile r.target.path
  unfold Request.refusal?
  split
  · next hpath => rw [hwrite.mpr hpath]
  · next hpath =>
    split
    · next c tail hdrop =>
      have htail := Text.dropPrefix?_eq_some_iff.mp hdrop
      have hnot : c :: tail ≠ "write".toList := by
        intro heq
        rw [heq] at htail
        exact hpath (htail.trans (by decide))
      rw [(hquery (c :: tail)).mpr ⟨htail, List.cons_ne_nil _ _, hnot⟩]
    · next hnone =>
      generalize Route.ofPath profile r.target.path = route at hwrite hquery
      cases route with
      | write => exact absurd (hwrite.mp rfl) hpath
      | query tail =>
        obtain ⟨htail, hne, -⟩ := (hquery tail).mp rfl
        obtain ⟨c, rest, rfl⟩ := List.exists_cons_of_ne_nil hne
        exact absurd (Text.dropPrefix?_eq_some_iff.mpr htail) (hnone c rest)
      | metrics | healthy | ready | runtime | config | unmatched => rfl

/-- A request on the route to an upstream is bound for it or refused. -/
theorem handler_eq_iff (profile : Bool) (r : Request) (upstream : Upstream) :
    (Route.ofPath profile r.target.path).handler = upstream.handler ↔
    (∃ path, r.BoundFor upstream path) ∨ ∃ status, r.refusal? = some (upstream, status) := by
  simp only [← forwarding?_eq_some_iff profile, refusal?_eq profile]
  cases Route.ofPath profile r.target.path with
  | write =>
    cases upstream <;> by_cases hmethod : r.method = "POST" <;>
      simp [Route.handler, Upstream.handler, Route.forwarding?, hmethod]
  | query tail =>
    cases upstream <;> cases hpath : queryPath? tail <;>
      simp [Route.handler, Upstream.handler, Route.forwarding?, hpath]
  | metrics | healthy | ready | runtime | config | unmatched =>
    cases upstream <;> simp [Route.handler, Upstream.handler, Route.forwarding?]

theorem refusal?_eq_none_of_boundFor (h : r.BoundFor upstream path) : r.refusal? = none := by
  rw [← forwarding?_eq_some_iff false] at h
  rw [refusal?_eq false]
  generalize Route.ofPath false r.target.path = route at h
  cases route with
  | write =>
    simp only [Route.forwarding?, Option.ite_none_right_eq_some] at h
    exact if_pos h.1
  | query tail =>
    obtain ⟨decoded, hdecoded, -⟩ := Option.map_eq_some_iff.mp h
    simp only [hdecoded, Option.isSome_some, if_true]
  | metrics | healthy | ready | runtime | config | unmatched => rfl

/-- What a request that is completed with a status leaves in the counts: one for itself, and before it one
for its forward, if it is bound for an upstream. -/
inductive Completes (g : Gateway) (r : Request) (status : Nat) (g' : Gateway) : Prop where
  | forwarded {upstream : Upstream} {path : List Char} (h : r.BoundFor upstream path)
      (hmetrics : g'.metrics = (g.metrics.record (.proxied upstream status)).record
        (.request (Route.ofPath g.options.profile r.target.path).handler r.method status))
  | alone (h : ∀ upstream path, ¬ r.BoundFor upstream path)
      (hstatus : ∀ upstream refused, r.refusal? = some (upstream, refused) → refused = status)
      (hmetrics : g'.metrics = g.metrics.record
        (.request (Route.ofPath g.options.profile r.target.path).handler r.method status))

/-- What the router refuses it answers with the status for it. -/
theorem status_of_refusal? (h : r.refusal? = some (upstream, status)) :
    (g.respond s r).1.response.status = status := by
  have hmethod : (identified s.newId r).method = r.method := identified_method _
  simp only [respond, status_returnId, identified_target]
  rw [refusal?_eq g.options.profile] at h
  generalize Route.ofPath g.options.profile r.target.path = route at h
  cases route with
  | write =>
    by_cases hpost : r.method = "POST"
    · simp only [hpost, if_true, reduceCtorEq] at h
    · simp only [hpost, if_false, Option.some.injEq, Prod.mk.injEq] at h
      have hcontains : ["POST"].contains (identified s.newId r).method = false := by
        simpa [hmethod] using hpost
      simp only [answer, Route.methods?, hcontains, Bool.false_eq_true, if_false]
      exact h.2
  | query tail =>
    cases hpath : queryPath? tail with
    | some path => simp only [hpath, Option.isSome_some, if_true, reduceCtorEq] at h
    | none =>
      simp only [hpath, Option.isSome_none, Bool.false_eq_true, if_false, Option.some.injEq,
        Prod.mk.injEq] at h
      simp only [answer, Route.methods?, serve, hpath, reduceCtorEq, if_false, status_complete]
      exact h.2
  | metrics | healthy | ready | runtime | config | unmatched => cases h

@[simp] theorem options_relay {out : Forwarded × Option Request × Proxy} :
    (g.relay r out).2.options = g.options := by
  simp only [relay, options_complete]

theorem completes_respond : g.Completes r (g.respond s r).1.response.status (g.respond s r).2 ∧
    (g.respond s r).2.options = g.options := by
  by_cases h : ∃ upstream path, r.BoundFor upstream path
  · obtain ⟨upstream, path, h⟩ := h
    rw [respond_of_forwarding? ((forwarding?_eq_some_iff _).mpr h)]
    refine ⟨.forwarded h ?_, options_relay⟩
    rw [metrics_relay, Proxy.counted_forward, status_relay, identified_target, identified_method]
  · have hnot (upstream : Upstream) (path : List Char) : ¬ r.BoundFor upstream path :=
      fun hbound => h ⟨upstream, path, hbound⟩
    have hnone : (Route.ofPath g.options.profile r.target.path).forwarding? r.method = none :=
      forwarding?_eq_none_iff.mpr hnot
    obtain ⟨-, -, -, hoptions, hmetrics⟩ := respond_alone (g := g) (s := s) hnone
    exact ⟨.alone hnot (fun _ _ hrefused => (status_of_refusal? hrefused).symm) hmetrics, hoptions⟩

theorem completes_conclude (h : v.request.BoundFor v.pending.upstream path) :
    g.Completes v.request (g.conclude v bytes).1.response.status (g.conclude v bytes).2 ∧
      (g.conclude v bytes).2.options = g.options := by
  refine ⟨.forwarded h ?_, options_relay⟩
  simp only [conclude]
  rw [metrics_relay, status_relay, Proxy.counted_finish]

namespace Completes

variable {handler : Handler} {method : String} {other : Nat}

/-- A completed request is counted once. -/
theorem count_requests (c : g.Completes r status g') :
    g'.metrics.count (.requests handler method other) = g.metrics.count (.requests handler method other) +
      if handler = (Route.ofPath g.options.profile r.target.path).handler ∧ method = r.method ∧
        other = status then 1 else 0 := by
  cases c with
  | forwarded h hmetrics =>
    rw [hmetrics, Metrics.count_requests_record_request, Metrics.count_requests_record_proxied]
  | alone h hstatus hmetrics => rw [hmetrics, Metrics.count_requests_record_request]

theorem sum_requests {S : Finset String} (c : g.Completes r status g') (hmethod : r.method ∈ S) :
    ∑ method ∈ S, g'.metrics.count (.requests handler method other) =
      ∑ method ∈ S, g.metrics.count (.requests handler method other) +
        if handler = (Route.ofPath g.options.profile r.target.path).handler ∧ other = status
          then 1 else 0 := by
  have hpoint (method : String) :
      (if handler = (Route.ofPath g.options.profile r.target.path).handler ∧ method = r.method ∧
        other = status then 1 else 0) =
      if method = r.method then
        if handler = (Route.ofPath g.options.profile r.target.path).handler ∧ other = status
          then 1 else 0
      else 0 := by
    split_ifs <;> grind
  simp only [c.count_requests, Finset.sum_add_distrib, hpoint, Finset.sum_ite_eq', hmethod, if_true]

/-- What a completed request adds on the route to an upstream is its forward, or a refusal. -/
theorem balance {S : Finset String} (c : g.Completes r status g') (hmethod : r.method ∈ S)
    (upstream : Upstream) (other : Nat) :
    ∑ method ∈ S, g'.metrics.count (.requests upstream.handler method other) +
        g.metrics.count (.proxied upstream other) =
      ∑ method ∈ S, g.metrics.count (.requests upstream.handler method other) +
        g'.metrics.count (.proxied upstream other) +
          if r.refusal? = some (upstream, other) then 1 else 0 := by
  rw [c.sum_requests hmethod]
  have hroute := handler_eq_iff g.options.profile r upstream
  cases c with
  | @forwarded target path h hmetrics =>
    have hnone := refusal?_eq_none_of_boundFor h
    have htarget := (handler_eq_iff g.options.profile r target).mpr (.inl ⟨path, h⟩)
    have hone : g'.metrics.count (.proxied upstream other) = g.metrics.count (.proxied upstream other) +
        if upstream = target ∧ other = status then 1 else 0 := by
      rw [hmetrics, Metrics.count_proxied_record_request, Metrics.count_proxied_record_proxied]
    have hsame : upstream.handler = target.handler ↔ upstream = target :=
      ⟨handler_injective, congrArg _⟩
    simp only [hone, hnone, htarget, hsame, reduceCtorEq, if_false]
    omega
  | alone h hstatus hmetrics =>
    have hnone : g'.metrics.count (.proxied upstream other) = g.metrics.count (.proxied upstream other) := by
      rw [hmetrics, Metrics.count_proxied_record_request]
    have hrefused : upstream.handler = (Route.ofPath g.options.profile r.target.path).handler ∧
        other = status ↔ r.refusal? = some (upstream, other) := by
      constructor
      · rintro ⟨hhandler, rfl⟩
        obtain ⟨path, hbound⟩ | ⟨refused, hrefused⟩ := hroute.mp hhandler.symm
        · exact absurd hbound (h upstream path)
        · rwa [← hstatus upstream refused hrefused]
      · exact fun hrefused => ⟨(hroute.mpr (.inr ⟨other, hrefused⟩)).symm, hstatus _ _ hrefused⟩
    simp only [hnone, hrefused]
    omega

end Completes

theorem boundFor_of_visit? (h : g.visit? newId r = some v) :
    ∃ path, v.request.BoundFor v.pending.upstream path := by
  simp only [visit?] at h
  split at h
  · cases h
  · next upstream path hforwarding =>
    split at h
    · cases h
    · next pending records hstart =>
      obtain rfl := Option.some.inj h
      rw [Proxy.upstream_of_start hstart]
      exact ⟨path, (forwarding?_eq_some_iff _).mp hforwarding⟩

end Gateway

namespace VisitReport

/-- The method of a request that has its response. -/
def method? : VisitReport → Option String
  | responds r _ => some r.method
  | _ => none

/-- The methods of the requests that have their responses. -/
def methods (reports : List VisitReport) : Finset String :=
  (reports.filterMap method?).toFinset

/-- A request has its response, and these are its labels. -/
def isCounted (profile : Bool) (handler : Handler) (method : String) (status : Nat) : VisitReport → Bool
  | responds r h => handler = (Route.ofPath profile r.target.path).handler ∧ method = r.method ∧
      status = h.response.status
  | _ => false

/-- A request on the way to the upstream has its response, and the router refused it with the status. -/
def isRefused (upstream : Upstream) (status : Nat) : VisitReport → Bool
  | responds r _ => r.refusal? = some (upstream, status)
  | _ => false

end VisitReport

namespace Visits

open Gateway

variable {o : Options} {recording : Bool} {s s' : Visits} {m : VisitMove} {moves : List VisitMove}
  {report : VisitReport} {reports : List VisitReport}

/-- Every request that waits does so for the upstream it is bound for. -/
def Bound (s : Visits) : Prop :=
  ∀ v ∈ s.waiting, ∃ path, v.request.BoundFor v.pending.upstream path

/-- What a move does to the counts: a request is completed, or nothing is counted. -/
inductive Moves (s : Visits) : VisitReport → Visits → Prop where
  | completes {r : Request} {h : Handled} {s' : Visits}
      (c : s.gateway.Completes r h.response.status s'.gateway)
      (hoptions : s'.gateway.options = s.gateway.options) (hwaiting : s'.waiting ⊆ s.waiting) :
      Moves s (.responds r h) s'
  | waits {v : Visit} {path : List Char} (h : v.request.BoundFor v.pending.upstream path) :
      Moves s (.waits v) { s with waiting := s.waiting ++ [v] }
  | silent {s' : Visits} (hmetrics : s'.gateway.metrics = s.gateway.metrics)
      (hoptions : s'.gateway.options = s.gateway.options) (hwaiting : s'.waiting ⊆ s.waiting) :
      Moves s .silent s'

theorem moves_of_move? (hs : s.Bound) (h : s.move? m = some (report, s')) : s.Moves report s' := by
  cases m with
  | arrive surroundings r =>
    simp only [move?] at h
    split at h
    · next v hv =>
      obtain ⟨rfl, rfl⟩ := Prod.mk.inj (Option.some.inj h)
      obtain ⟨path, hbound⟩ := boundFor_of_visit? hv
      exact .waits hbound
    · obtain ⟨rfl, rfl⟩ := Prod.mk.inj (Option.some.inj h)
      exact .completes completes_respond.1 completes_respond.2 (List.Subset.refl _)
  | answer i bytes =>
    obtain ⟨v, hv, heq⟩ := Option.map_eq_some_iff.mp h
    obtain ⟨rfl, rfl⟩ := Prod.mk.inj heq
    obtain ⟨path, hbound⟩ := hs v (List.mem_of_getElem? hv)
    exact .completes (completes_conclude hbound).1 (completes_conclude hbound).2
      (fun _ => List.mem_of_mem_eraseIdx)
  | leave i =>
    obtain ⟨v, hv, heq⟩ := Option.map_eq_some_iff.mp h
    obtain ⟨rfl, rfl⟩ := Prod.mk.inj heq
    exact .silent rfl rfl (fun _ => List.mem_of_mem_eraseIdx)
  | drop i =>
    obtain ⟨b, hb, heq⟩ := Option.map_eq_some_iff.mp h
    obtain ⟨rfl, rfl⟩ := Prod.mk.inj heq
    exact .silent rfl rfl (List.Subset.refl _)

theorem Moves.bound (h : s.Moves report s') (hs : s.Bound) : s'.Bound := by
  cases h with
  | completes c hoptions hwaiting => exact fun v hv => hs v (hwaiting hv)
  | @waits v path hbound =>
    intro w hw
    obtain hw | hw := List.mem_append.mp hw
    · exact hs w hw
    · obtain rfl := List.mem_singleton.mp hw
      exact ⟨path, hbound⟩
  | silent hmetrics hoptions hwaiting => exact fun v hv => hs v (hwaiting hv)

theorem Moves.options_eq (h : s.Moves report s') : s'.gateway.options = s.gateway.options := by
  cases h with
  | completes c hoptions hwaiting => exact hoptions
  | waits hbound => rfl
  | silent hmetrics hoptions hwaiting => exact hoptions

/-- What is counted are the requests that have their responses, and their forwards. -/
structure Accounted (o : Options) (reports : List VisitReport) (s : Visits) : Prop where
  options_eq : s.gateway.options = o
  bound : s.Bound
  count_requests : ∀ handler method status, s.gateway.metrics.count (.requests handler method status) =
    reports.countP (VisitReport.isCounted o.profile handler method status)
  balance : ∀ S, VisitReport.methods reports ⊆ S → ∀ upstream status,
    ∑ method ∈ S, s.gateway.metrics.count (.requests upstream.handler method status) =
      s.gateway.metrics.count (.proxied upstream status) +
        reports.countP (VisitReport.isRefused upstream status)

theorem Accounted.new : Accounted o [] (new o recording) where
  options_eq := rfl
  bound := nofun
  count_requests _ _ _ := rfl
  balance _ _ _ _ := Finset.sum_eq_zero fun _ _ => rfl

theorem Accounted.step (a : Accounted o reports s) (h : s.Moves report s') :
    Accounted o (reports ++ [report]) s' := by
  refine ⟨h.options_eq.trans a.options_eq, h.bound a.bound, fun handler method status => ?_,
    fun S hS upstream status => ?_⟩
  · rw [List.countP_append, ← a.count_requests]
    cases h with
    | completes c hoptions hwaiting =>
      rw [c.count_requests, a.options_eq, List.countP_singleton]
      simp only [VisitReport.isCounted, decide_eq_true_eq]
    | waits hbound => rfl
    | silent hmetrics hoptions hwaiting =>
      rw [hmetrics]
      rfl
  · have hsub : VisitReport.methods reports ⊆ S := by
      refine Finset.Subset.trans ?_ hS
      intro method
      simp only [VisitReport.methods, List.filterMap_append, List.mem_toFinset, List.mem_append]
      exact .inl
    have hbefore := a.balance S hsub upstream status
    rw [List.countP_append]
    cases h with
    | @completes r handled s' c hoptions hwaiting =>
      have hmethod : r.method ∈ S := hS (by simp [VisitReport.methods, VisitReport.method?])
      have hstep := c.balance hmethod upstream status
      simp only [List.countP_singleton, VisitReport.isRefused, decide_eq_true_eq]
      omega
    | waits hbound => exact hbefore
    | silent hmetrics hoptions hwaiting =>
      rw [hmetrics]
      exact hbefore

theorem accounted_of_run (h : (new o recording).run? moves = some (reports, s)) :
    Accounted o reports s :=
  History.run?_induction (P := fun _ reports s => Accounted o reports s) .new
    (fun _ _ _ _ _ _ _ a hstep => a.step (moves_of_move? a.bound hstep)) h

theorem move?_answer {i : Nat} {v : Visit} {bytes : Option Bytes} (h : s.waiting[i]? = some v) :
    s.move? (.answer i bytes) = some (respond { s with waiting := s.waiting.eraseIdx i } v.request
      (s.gateway.conclude v bytes)) := by
  rw [move?, h]
  rfl

theorem move?_leave {i : Nat} {v : Visit} (h : s.waiting[i]? = some v) :
    s.move? (.leave i) = some (.silent, { s with waiting := s.waiting.eraseIdx i }) := by
  rw [move?, h]
  rfl

theorem exists_arrive (surroundings : Surroundings) (r : Request) :
    ∃ report s', s.move? (.arrive surroundings r) = some (report, s') := by
  simp only [move?]
  split
  · exact ⟨_, _, rfl⟩
  · exact ⟨_, _, rfl⟩

/-- What a request that waits comes to, when its upstream answers as the surroundings say. -/
theorem conclude_eq_respond {g : Gateway} {surroundings : Surroundings} {r : Request} {v : Visit}
    (h : g.visit? surroundings.newId r = some v) :
    g.conclude v (v.pending.sent.onWire?.bind fun _ => surroundings.contact v.pending.sent) =
      g.respond surroundings r := by
  simp only [visit?, identified_method, identified_target] at h
  split at h
  · cases h
  · next upstream path hforwarding =>
    rw [respond_of_forwarding? hforwarding]
    split at h
    · cases h
    · next pending records hstart =>
      obtain rfl := Option.some.inj h
      simp only [conclude, Proxy.forward, hstart]

/-- A request from its arrival to its response is a run of moves. -/
theorem respond_of_moves (s : Visits) (surroundings : Surroundings) (r : Request) :
    ∃ moves reports r' s', s.run? (.arrive surroundings r :: moves) =
        some (reports ++ [.responds r' (s.gateway.respond surroundings r).1], s') ∧
      s'.gateway = (s.gateway.respond surroundings r).2 ∧ s'.waiting = s.waiting := by
  cases hv : s.gateway.visit? surroundings.newId r with
  | none =>
    refine ⟨[], [], r, (s.respond r (s.gateway.respond surroundings r)).2,
      History.run?_single ?_, rfl, rfl⟩
    simp only [move?, hv]
    rfl
  | some v =>
    let bytes := v.pending.sent.onWire?.bind fun _ => surroundings.contact v.pending.sent
    have harrive : s.move? (.arrive surroundings r) =
        some (.waits v, { s with waiting := s.waiting ++ [v] }) := by
      simp only [move?, hv]
    have hanswer : move? { s with waiting := s.waiting ++ [v] } (.answer s.waiting.length bytes) = _ :=
      move?_answer (List.getElem?_concat_length ..)
    rw [List.eraseIdx_append_of_length_le (Nat.le_refl _), Nat.sub_self,
      conclude_eq_respond hv] at hanswer
    exact ⟨[.answer s.waiting.length bytes], [.waits v], v.request, _,
      History.run?_cons.mpr ⟨_, _, _, harrive, History.run?_single hanswer, rfl⟩, rfl,
      List.append_nil _⟩

theorem countP_isCounted_eq_zero {profile : Bool} {handler : Handler} {method : String} {status : Nat}
    (hmethod : method ∉ VisitReport.methods reports) :
    reports.countP (VisitReport.isCounted profile handler method status) = 0 := by
  rw [List.countP_eq_zero]
  intro report hreport hcounted
  cases report with
  | responds r h =>
    obtain ⟨-, rfl, -⟩ := of_decide_eq_true hcounted
    exact hmethod (List.mem_toFinset.mpr (List.mem_filterMap.mpr ⟨_, hreport, rfl⟩))
  | waits v => cases hcounted
  | silent => cases hcounted

/-- However requests come in, are answered and are given up: for each upstream and status the forwards
are the requests on the route to the upstream, over all methods, but for those that the router refused
by itself. Each request that has its response is counted once, under its labels, and nothing else is. No
request is turned away, one that waits has its response as soon as its upstream answers, whatever this
is, and one that is given up before is not counted at all. -/
theorem forwards_match_requests (h : (new o recording).run? moves = some (reports, s)) :
    (∀ upstream status, ∑ method ∈ VisitReport.methods reports,
        s.gateway.metrics.count (.requests upstream.handler method status) =
      s.gateway.metrics.count (.proxied upstream status) +
        reports.countP (VisitReport.isRefused upstream status)) ∧
    (∀ handler status, ∀ method ∉ VisitReport.methods reports,
      s.gateway.metrics.count (.requests handler method status) = 0) ∧
    (∀ handler method status, s.gateway.metrics.count (.requests handler method status) =
      reports.countP (VisitReport.isCounted o.profile handler method status)) ∧
    (∀ surroundings r, ∃ report s', s.move? (.arrive surroundings r) = some (report, s')) ∧
    ∀ (i : Nat) v, s.waiting[i]? = some v →
      (∀ bytes, ∃ h s', s.move? (.answer i bytes) = some (.responds v.request h, s')) ∧
      ∃ s', s.move? (.leave i) = some (.silent, s') ∧ s'.gateway = s.gateway ∧
        s'.waiting = s.waiting.eraseIdx i := by
  have a : Accounted o reports s := accounted_of_run h
  refine ⟨a.balance _ (Finset.Subset.refl _), fun handler status method hmethod => ?_, a.count_requests,
    exists_arrive, fun i v hv => ⟨fun bytes => ⟨_, _, move?_answer hv⟩, _, move?_leave hv, rfl, rfl⟩⟩
  rw [a.count_requests, countP_isCounted_eq_zero hmethod]

/-- Two requests wait for one upstream, and one of them is given up. One to the other is refused. -/
def mixed : List VisitMove :=
  let request (method path : String) : Request := ⟨method, ⟨none, [], path.toList, none⟩, [], [], false⟩
  let reply := Text.utf8String "HTTP/1.1 200 OK\r\ncontent-length: 6\r\n\r\nresult"
  [.arrive answering (request "GET" "/api/metrics/v1/up"),
    .arrive answering (request "PUT" "/api/metrics/v1/up"),
    .arrive answering (request "PUT" "/api/metrics/v1/write"), .leave 1, .answer 0 (some reply)]

theorem forwards_match_mixed : ∃ reports s,
    (new (inFrontOf host).options false).run? mixed = some (reports, s) ∧
      s.gateway.metrics.count (.proxied .query 200) = 1 ∧
      s.gateway.metrics.count (.proxied .write 405) = 0 ∧
      ∑ method ∈ VisitReport.methods reports, s.gateway.metrics.count (.requests .query method 200) = 1 ∧
      ∑ method ∈ VisitReport.methods reports, s.gateway.metrics.count (.requests .write method 405) = 1 := by
  have hrun : ((new (inFrontOf host).options false).run? mixed).map (fun (reports, s) =>
      (s.gateway.metrics.count (.proxied .query 200), s.gateway.metrics.count (.proxied .write 405),
        reports.countP (VisitReport.isRefused .query 200),
        reports.countP (VisitReport.isRefused .write 405))) = some (1, 0, 0, 1) := by
    decide +kernel
  obtain ⟨⟨reports, s⟩, h, hcounts⟩ := Option.map_eq_some_iff.mp hrun
  obtain ⟨hquery, hwrite, hanswered, hrefused⟩ :
      s.gateway.metrics.count (.proxied .query 200) = 1 ∧ s.gateway.metrics.count (.proxied .write 405) = 0 ∧
        reports.countP (VisitReport.isRefused .query 200) = 0 ∧
        reports.countP (VisitReport.isRefused .write 405) = 1 := by simpa using hcounts
  have hsum := (forwards_match_requests h).1
  exact ⟨reports, s, h, hquery, hwrite, (hsum .query 200).trans (by rw [hquery, hanswered]),
    (hsum .write 405).trans (by rw [hwrite, hrefused])⟩

end Visits

end MetricsGateway
