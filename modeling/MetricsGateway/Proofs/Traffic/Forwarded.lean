import MetricsGateway.Traffic.Gateway

/-!
What a gateway sends on: requests of two routes, shaped for the upstream of the route. A request that an
upstream was sent leads back to its route and to the shaping of it.
-/

namespace MetricsGateway

/-- Where the requests of a route are forwarded, and the path that is appended there. -/
inductive Route.ForwardsTo : Route → Upstream → List Char → Prop where
  | write : ForwardsTo .write .write []
  | query {tail path : List Char} (h : Gateway.queryPath? tail = some path) :
      ForwardsTo (.query tail) .query path

namespace Request

variable {r sent : Request}

theorem method_of_onWire? (h : r.onWire? = some sent) : sent.method = r.method := by
  obtain ⟨body, -, rfl⟩ := Option.map_eq_some_iff.mp h
  rfl

theorem headers_of_onWire? (h : r.onWire? = some sent) : sent.headers = r.headers := by
  obtain ⟨body, -, rfl⟩ := Option.map_eq_some_iff.mp h
  rfl

/-- A request is sent with its path and query, but one for a tunnel with the authority alone. -/
theorem target_of_onWire? (h : r.onWire? = some sent) : sent.target =
    if r.method = "CONNECT" then ⟨none, r.target.authority, [], none⟩
    else ⟨none, [], r.target.path, r.target.query⟩ := by
  obtain ⟨body, -, rfl⟩ := Option.map_eq_some_iff.mp h
  rfl

end Request

namespace Proxy

variable {p : Proxy} {upstream : Upstream} {path : List Char} {r : Request} {pending : Pending}
  {records : List LogRecord}

theorem sent_of_start (h : p.start upstream path r = .ok (pending, records)) :
    ∃ t, targetOf (p.endpoint upstream) path r.target.query = .ok t ∧
      pending.sent = { r with
        target := t, headers := Headers.without (Headers.stripHopByHop r.headers) "host" } := by
  unfold start at h
  split at h
  · cases h
  · next t ht =>
    obtain ⟨rfl, -⟩ := Prod.mk.inj (Except.ok.inj h)
    exact ⟨t, ht, rfl⟩

end Proxy

namespace Gateway

variable {g : Gateway} {s : Surroundings} {upstream : Upstream} {path : List Char} {route : Route}
  {r sent : Request}

@[simp] theorem identified_method (id : String) : (identified id r).method = r.method := by
  unfold identified
  split <;> rfl

@[simp] theorem identified_target (id : String) : (identified id r).target = r.target := by
  unfold identified
  split <;> rfl

/-- A request that an upstream was sent has been shaped, and was answered. -/
theorem exists_pending_of_sent (h : (g.forward s upstream path r).1.sent = some sent) :
    ∃ pending records bytes, g.proxy.start upstream path r = .ok (pending, records) ∧
      pending.sent.onWire? = some sent ∧ s.contact pending.sent = some bytes ∧
      (g.forward s upstream path r).1.response =
        (g.proxy.finish pending (some bytes)).1.response := by
  simp only [forward, Proxy.forward] at h ⊢
  split at h
  · cases h
  · next pending records hstart =>
    obtain ⟨bytes, hbytes, hwire⟩ := Option.bind_eq_some_iff.mp h
    obtain ⟨-, -, hcontact⟩ := Option.bind_eq_some_iff.mp hbytes
    rw [hstart]
    exact ⟨pending, records, bytes, rfl, hwire, hcontact, by rw [hbytes]⟩

/-- Only the forwarding routes send anything, and their responses are completed. -/
theorem forwardsTo_of_sent (h : (g.answer s route r).1.sent = some sent) :
    ∃ upstream path, route.ForwardsTo upstream path ∧
      (g.forward s upstream path r).1.sent = some sent ∧
      (g.answer s route r).1.response =
        (complete r.method (g.forward s upstream path r).1.response
          (g.forward s upstream path r).2).1 := by
  cases route with
  | write =>
    by_cases hmethod : ["POST"].contains r.method
    · simp only [answer, Route.methods?, serve, hmethod, if_true] at h ⊢
      exact ⟨.write, [], .write, h, rfl⟩
    · simp only [answer, Route.methods?, hmethod, Bool.false_eq_true, if_false, reduceCtorEq] at h
  | query tail =>
    cases hpath : queryPath? tail with
    | none =>
      simp only [answer, Route.methods?, serve, hpath, reduceCtorEq, if_false] at h
    | some path =>
      simp only [answer, Route.methods?, serve, hpath, reduceCtorEq, if_false] at h ⊢
      exact ⟨.query, path, .query hpath, h, rfl⟩
  | unmatched => cases h
  | metrics | healthy | ready | runtime | config =>
    simp only [answer, Route.methods?] at h
    split at h <;> cases h

/-- What an upstream was sent is the request with its identifier, shaped for the route, and its reply,
completed, is what the client gets. -/
theorem exists_start_of_sent (h : (g.respond s r).1.sent = some sent) :
    ∃ upstream path pending records bytes,
      (Route.ofPath g.options.profile r.target.path).ForwardsTo upstream path ∧
      g.proxy.start upstream path (identified s.newId r) = .ok (pending, records) ∧
      pending.sent.onWire? = some sent ∧ s.contact pending.sent = some bytes ∧
      ∃ g', (g.respond s r).1.response = returnId (identified s.newId r)
        (complete r.method (g.proxy.finish pending (some bytes)).1.response g').1 := by
  have hsent : (g.answer s (Route.ofPath g.options.profile (identified s.newId r).target.path)
      (identified s.newId r)).1.sent = some sent := h
  obtain ⟨upstream, path, hroute, hforward, hresponse⟩ := forwardsTo_of_sent hsent
  obtain ⟨pending, records, bytes, hstart, hwire, hcontact, hbody⟩ := exists_pending_of_sent hforward
  rw [identified_target] at hroute
  rw [hbody, identified_method] at hresponse
  exact ⟨upstream, path, pending, records, bytes, hroute, hstart, hwire, hcontact, _,
    congrArg (returnId (identified s.newId r)) hresponse⟩

/-- A gateway with nothing but defaults in front of one endpoint. -/
def inFrontOf (endpoint : Url) : Gateway :=
  .new ⟨.default, .default, ⟨endpoint, endpoint, 1, 1⟩, .default, false⟩ false

/-- An endpoint without a path. -/
def host : Url := ⟨.http, [], [], .domain "thanos".toList, none, [[]], none, none⟩

/-- An upstream that answers everything alike. -/
def answering : Surroundings :=
  ⟨true, "f81d4fae", ⟨1, 0, 0⟩,
    fun _ => some (Text.utf8String "HTTP/1.1 200 OK\r\ncontent-length: 6\r\n\r\nresult")⟩

end Gateway

end MetricsGateway
