import Mathlib.Tactic.SplitIfs
import MetricsGateway.Proofs.Text.Utf8
import MetricsGateway.Proofs.Traffic.Forwarded
import MetricsGateway.Traffic.Visits

/-!
Where requests go. Main statement: the method of a request and its path as it came decide whether it is
forwarded, to which upstream and with which path appended; what is not forwarded is answered without any
upstream.
-/

namespace MetricsGateway

namespace Route

variable {tail : List Char}

theorem ofPath_eq_write_iff (profile : Bool) (path : List Char) :
    ofPath profile path = .write ↔ path = Handler.writePath.toList := by
  constructor
  · intro h
    simp only [ofPath] at h
    split_ifs at h with hmetrics hhealthy hready hwrite hruntime hconfig
    · exact hwrite
    · split at h <;> cases h
  · rintro rfl
    cases profile <;> decide

theorem ofPath_eq_query_iff (profile : Bool) (path : List Char) : ofPath profile path = .query tail ↔
    path = Handler.queryPrefix.toList ++ tail ∧ tail ≠ [] ∧ tail ≠ "write".toList := by
  constructor
  · intro h
    simp only [ofPath] at h
    split_ifs at h with hmetrics hhealthy hready hwrite hruntime hconfig
    split at h
    · next c rest hdrop =>
      obtain rfl := Route.query.inj h
      rw [Text.dropPrefix?_eq_some_iff] at hdrop
      refine ⟨hdrop, List.cons_ne_nil _ _, fun htail => hwrite ?_⟩
      rw [hdrop, htail]
      decide
    · cases h
  · rintro ⟨rfl, hne, hnot⟩
    have hother (other : List Char) (h : Text.dropPrefix? Handler.queryPrefix.toList other = none) :
        Handler.queryPrefix.toList ++ tail ≠ other := by
      rintro rfl
      rw [Text.dropPrefix?_eq_some_iff.mpr rfl] at h
      cases h
    have hwrite : Handler.queryPrefix.toList ++ tail ≠ Handler.writePath.toList := by
      intro h
      have hsplit : Handler.writePath.toList = Handler.queryPrefix.toList ++ "write".toList := by decide
      exact hnot (List.append_cancel_left (h.trans hsplit))
    have hmetrics := hother "/metrics".toList (by decide)
    have hhealthy := hother "/-/healthy".toList (by decide)
    have hready := hother "/-/ready".toList (by decide)
    have hruntime := hother "/debug/runtime".toList (by decide)
    have hconfig := hother "/debug/config".toList (by decide)
    obtain ⟨c, rest, rfl⟩ := List.exists_cons_of_ne_nil hne
    simp only [ofPath, hmetrics, hhealthy, hready, hwrite, hruntime, hconfig, if_false, decide_false,
      Bool.and_false, Bool.false_eq_true, Text.dropPrefix?_eq_some_iff.mpr rfl]

end Route

/-- Where a request goes by its method and its path as it came: to one upstream if it writes, and to the
other if anything else follows the prefix, with what follows decoded once. -/
inductive Request.BoundFor (r : Request) : Upstream → List Char → Prop where
  | write (hmethod : r.method = "POST") (hpath : r.target.path = "/api/metrics/v1/write".toList) :
      BoundFor r .write []
  | query {tail path : List Char} (hpath : r.target.path = "/api/metrics/v1/".toList ++ tail)
      (hne : tail ≠ []) (hwrite : tail ≠ "write".toList)
      (htext : Text.utf8 path = Percent.decode (Text.utf8 tail)) : BoundFor r .query path

namespace Proxy

variable {p : Proxy} {upstream : Upstream} {path : List Char} {r : Request} {pending : Pending}
  {records : List LogRecord} {answer : Option Bytes} {f : Forwarded} {contact other : Contact}

theorem counted_finish : (p.finish pending answer).1.counted =
    .proxied pending.upstream (p.finish pending answer).1.response.status := by
  unfold finish
  split <;> rfl

theorem counted_of_refused (h : p.start upstream path r = .error f) :
    f.counted = .proxied upstream f.response.status := by
  unfold start at h
  split at h
  · obtain rfl := Except.error.inj h
    rfl
  · cases h

theorem upstream_of_start (h : p.start upstream path r = .ok (pending, records)) :
    pending.upstream = upstream := by
  unfold start at h
  split at h
  · cases h
  · obtain ⟨rfl, -⟩ := Prod.mk.inj (Except.ok.inj h)
    rfl

/-- A forward is counted once, for its upstream, with the status of the response. -/
theorem counted_forward : (p.forward contact upstream path r).1.counted =
    .proxied upstream (p.forward contact upstream path r).1.response.status := by
  unfold forward
  cases hstart : p.start upstream path r with
  | error f => exact counted_of_refused hstart
  | ok started =>
    obtain ⟨pending, records⟩ := started
    rw [← upstream_of_start hstart]
    exact counted_finish

end Proxy

namespace Gateway

variable {g : Gateway} {s : Surroundings} {r : Request} {route : Route} {profile : Bool}
  {upstream : Upstream} {path tail : List Char} {method : String} {response : Response}

theorem queryPath?_eq_some_iff :
    queryPath? tail = some path ↔ Text.utf8 path = Percent.decode (Text.utf8 tail) :=
  Text.ofUtf8?_eq_some_iff

/-- The router forwards what is bound for an upstream, and only that. -/
theorem forwarding?_eq_some_iff (profile : Bool) :
    (Route.ofPath profile r.target.path).forwarding? r.method = some (upstream, path) ↔
      r.BoundFor upstream path := by
  constructor
  · intro h
    generalize hroute : Route.ofPath profile r.target.path = route at h
    cases route with
    | write =>
      simp only [Route.forwarding?, Option.ite_none_right_eq_some, Option.some.injEq,
        Prod.mk.injEq] at h
      obtain ⟨hmethod, rfl, rfl⟩ := h
      exact .write hmethod ((Route.ofPath_eq_write_iff _ _).mp hroute)
    | query tail =>
      obtain ⟨hpath, hne, hwrite⟩ := (Route.ofPath_eq_query_iff _ _).mp hroute
      simp only [Route.forwarding?, Option.map_eq_some_iff, Prod.mk.injEq] at h
      obtain ⟨decoded, hdecoded, rfl, rfl⟩ := h
      exact .query hpath hne hwrite (queryPath?_eq_some_iff.mp hdecoded)
    | metrics | healthy | ready | runtime | config | unmatched => cases h
  · intro h
    cases h with
    | write hmethod hpath =>
      rw [(Route.ofPath_eq_write_iff _ _).mpr hpath, Route.forwarding?, if_pos hmethod]
    | query hpath hne hwrite htext =>
      rw [(Route.ofPath_eq_query_iff _ _).mpr ⟨hpath, hne, hwrite⟩, Route.forwarding?,
        queryPath?_eq_some_iff.mpr htext]
      rfl

theorem forwarding?_eq_none_iff :
    (Route.ofPath profile r.target.path).forwarding? r.method = none ↔
      ∀ upstream path, ¬ r.BoundFor upstream path := by
  simp only [Option.eq_none_iff_forall_ne_some, ← forwarding?_eq_some_iff profile,
    Prod.forall, ne_eq]

/-! ## Answers -/

@[simp] theorem status_measured : response.measured.status = response.status := by
  unfold Response.measured
  split
  · split <;> rfl
  · rfl

@[simp] theorem status_complete : (complete method response g).1.status = response.status := by
  unfold complete
  split
  · split <;> rfl
  · split
    · exact status_measured
    · exact status_measured

@[simp] theorem metrics_complete : (complete method response g).2.metrics = g.metrics := by
  unfold complete
  split
  · split <;> rfl
  · split <;> rfl

@[simp] theorem options_complete : (complete method response g).2.options = g.options := by
  unfold complete
  split
  · split <;> rfl
  · split <;> rfl

@[simp] theorem status_returnId : (returnId r response).status = response.status := by
  unfold returnId
  split
  · split <;> rfl
  · rfl

theorem answer_of_forwarding? (h : route.forwarding? r.method = some (upstream, path)) :
    g.answer s route r =
      let out := g.forward s upstream path r
      let completed := complete r.method out.1.response out.2
      ({ out.1 with response := completed.1 }, completed.2) := by
  cases route with
  | write =>
    simp only [Route.forwarding?, Option.ite_none_right_eq_some, Option.some.injEq,
      Prod.mk.injEq] at h
    obtain ⟨hmethod, rfl, rfl⟩ := h
    have hcontains : ["POST"].contains r.method := by simp [hmethod]
    simp only [answer, Route.methods?, hcontains, if_true, serve]
  | query tail =>
    simp only [Route.forwarding?, Option.map_eq_some_iff, Prod.mk.injEq] at h
    obtain ⟨decoded, hdecoded, rfl, rfl⟩ := h
    simp only [answer, Route.methods?, serve, hdecoded, reduceCtorEq, if_false]
  | metrics | healthy | ready | runtime | config | unmatched => cases h

/-- A request that is forwarded is answered with what comes of the forward. -/
theorem respond_of_forwarding?
    (h : (Route.ofPath g.options.profile r.target.path).forwarding? r.method = some (upstream, path)) :
    g.respond s r = g.relay (identified s.newId r)
      (g.proxy.forward s.contact upstream path (identified s.newId r)) := by
  rw [← identified_method s.newId, ← identified_target s.newId] at h
  simp only [respond, answer_of_forwarding? h, forward, relay]

/-- The statuses of the answers that the gateway gives by itself. -/
def ownStatuses : List Nat := [200, 400, 404, 405, 503]

theorem status_notFound : (notFound r).status = 404 := by
  unfold notFound
  split
  · rfl
  · exact status_measured

theorem serve_alone (hwrite : route ≠ .write) (h : route.forwarding? r.method = none) :
    ∃ response, response.status ∈ ownStatuses ∧
      ∀ contact, g.serve { s with contact } route r = (⟨response, [], none⟩, g) := by
  cases route with
  | write => exact absurd rfl hwrite
  | query tail =>
    rw [Route.forwarding?, Option.map_eq_none_iff] at h
    simp only [serve, h]
    exact ⟨_, (by decide : 400 ∈ ownStatuses), fun _ => rfl⟩
  | metrics =>
    refine ⟨g.metricsPage, ?_, fun _ => rfl⟩
    unfold metricsPage
    split
    · exact (by decide : 200 ∈ ownStatuses)
    · exact (by decide : 404 ∈ ownStatuses)
  | ready =>
    refine ⟨readyPage s.ready, ?_, fun _ => rfl⟩
    unfold readyPage
    split
    · exact (by decide : 200 ∈ ownStatuses)
    · exact (by decide : 503 ∈ ownStatuses)
  | runtime => exact ⟨.json s.runtime.toJson.text, (by decide : 200 ∈ ownStatuses), fun _ => rfl⟩
  | healthy | config => exact ⟨_, (by decide : 200 ∈ ownStatuses), fun _ => rfl⟩
  | unmatched =>
    refine ⟨notFound r, ?_, fun _ => rfl⟩
    rw [status_notFound]
    decide

/-- What is not forwarded is answered without the upstreams. -/
theorem answer_alone (h : route.forwarding? r.method = none) :
    ∃ response g', response.status ∈ ownStatuses ∧
      (∀ contact, g.answer { s with contact } route r = (⟨response, [], none⟩, g')) ∧
      g'.metrics = g.metrics ∧ g'.options = g.options := by
  have hrefused (methods : List String) : (Response.notAllowed methods).status ∈ ownStatuses := by
    rw [Response.notAllowed, status_measured]
    exact (by decide : 405 ∈ ownStatuses)
  by_cases hwrite : route = .write
  · subst hwrite
    have hcontains : ["POST"].contains r.method = false := by simpa [Route.forwarding?] using h
    refine ⟨.notAllowed ["POST"], g, hrefused _, fun contact => ?_, rfl, rfl⟩
    simp only [answer, Route.methods?, hcontains, Bool.false_eq_true, if_false]
  obtain ⟨page, hpage, hserve⟩ := serve_alone (g := g) (s := s) hwrite h
  by_cases hunmatched : route = .unmatched
  · subst hunmatched
    refine ⟨page, g, hpage, fun contact => ?_, rfl, rfl⟩
    simp only [answer, Route.methods?, hserve, if_true]
  have hcompleted : (complete r.method page g).1.status ∈ ownStatuses := by rwa [status_complete]
  cases hmethods : route.methods? with
  | none =>
    refine ⟨(complete r.method page g).1, (complete r.method page g).2, hcompleted, fun contact => ?_,
      metrics_complete, options_complete⟩
    simp only [answer, hmethods, hserve, hunmatched, if_false]
  | some methods =>
    by_cases hallowed : methods.contains r.method
    · refine ⟨(complete r.method page g).1, (complete r.method page g).2, hcompleted, fun contact => ?_,
        metrics_complete, options_complete⟩
      simp only [answer, hmethods, hallowed, if_true, hserve]
    · refine ⟨.notAllowed methods, g, hrefused _, fun contact => ?_, rfl, rfl⟩
      simp only [answer, hmethods, hallowed, Bool.false_eq_true, if_false]

/-- A request that is not forwarded is answered without the upstreams, and counted once. -/
theorem respond_alone
    (h : (Route.ofPath g.options.profile r.target.path).forwarding? r.method = none) :
    (g.respond s r).1.sent = none ∧ (g.respond s r).1.response.status ∈ ownStatuses ∧
      (∀ contact, g.respond { s with contact } r = g.respond s r) ∧
      (g.respond s r).2.options = g.options ∧
      (g.respond s r).2.metrics = g.metrics.record (.request
        (Route.ofPath g.options.profile r.target.path).handler r.method
        (g.respond s r).1.response.status) := by
  rw [← identified_method s.newId, ← identified_target s.newId] at h
  obtain ⟨response, g', hstatus, hanswer, hmetrics, hoptions⟩ := answer_alone (g := g) (s := s) h
  have hown := hanswer s.contact
  refine ⟨?_, ?_, fun contact => ?_, ?_, ?_⟩
  · simp only [respond, hown]
  · simpa only [respond, hown, status_returnId] using hstatus
  · simp only [respond, hanswer contact, hown]
  · simp only [respond, hown, hoptions]
  · simp only [identified_target] at hown
    simp only [respond, identified_method, identified_target, hown, hmetrics, status_returnId]

@[simp] theorem status_relay {out : Forwarded × Option Request × Proxy} :
    (g.relay r out).1.response.status = out.1.response.status :=
  status_returnId.trans status_complete

theorem metrics_relay {out : Forwarded × Option Request × Proxy} :
    (g.relay r out).2.metrics = (g.metrics.record out.1.counted).record (.request
      (Route.ofPath g.options.profile r.target.path).handler r.method out.1.response.status) := by
  simp only [relay, metrics_complete, status_complete]

end Gateway

/-- What only looks like the path for writes, or repeats a slash, is a query. -/
example : ["write/", "%77rite", "writes", "/write"].map (fun tail =>
      Route.ofPath false ("/api/metrics/v1/" ++ tail).toList) =
    ["write/", "%77rite", "writes", "/write"].map fun tail => .query tail.toList := by
  decide +kernel

/-- The prefix is compared as it came, and something has to follow it. -/
example : ["/api/metrics/v1/", "/api/metrics/v1", "/api//metrics/v1/up", "/api%2Fmetrics/v1/up"].map
      (fun path => Route.ofPath false path.toList) = List.replicate 4 .unmatched := by
  decide +kernel

end MetricsGateway
