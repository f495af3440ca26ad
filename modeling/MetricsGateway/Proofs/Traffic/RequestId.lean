import MetricsGateway.Proofs.Traffic.Fields
import MetricsGateway.Proofs.Traffic.Forwarded

/-!
The identifier of a request on its way to an upstream and back. Main statement: the client always gets it
back, and the upstream gets it unless the client lists its field as one of the connection.
-/

namespace MetricsGateway.Gateway

open Headers

variable {g : Gateway} {s : Surroundings} {r sent : Request} {response : Response}
  {method name id : String} {pending : Pending} {answer : Option Bytes}

/-- The identifier that a request has here: the first that it brings, or the one that it gets. -/
def idOf (newId : String) (r : Request) : Bytes :=
  (get? r.headers requestIdName).getD (Text.utf8String newId)

theorem get?_identified : get? (identified id r).headers requestIdName = some (idOf id r) := by
  rw [idOf, identified]
  by_cases hhas : has r.headers requestIdName
  · rw [if_pos hhas]
    rw [← isSome_get?, Option.isSome_iff_exists] at hhas
    obtain ⟨value, hvalue⟩ := hhas
    rw [hvalue, Option.getD_some]
  · rw [Bool.not_eq_true] at hhas
    rw [hhas, get?_eq_none_iff.mpr hhas, if_neg Bool.false_ne_true, get?_append,
      get?_eq_none_iff.mpr hhas, HeaderField.ofText, get?_single, if_pos rfl]
    rfl

theorem listedByConnection_identified :
    listedByConnection (identified id r).headers = listedByConnection r.headers := by
  unfold identified
  split
  · rfl
  · exact listedByConnection_append (by decide)

theorem get?_measured (h : name ≠ "content-length") :
    get? response.measured.headers name = get? response.headers name := by
  unfold Response.measured
  split
  · split
    · rfl
    · rw [get?_append, HeaderField.ofText, get?_single, if_neg (Ne.symm h), Option.or_none]
  · rfl

/-- Completing a response touches no field but the length. -/
theorem get?_complete (h : name ≠ "content-length") :
    get? (complete method response g).1.headers name = get? response.headers name := by
  unfold complete
  split
  · split <;> rfl
  · split
    · exact get?_measured h
    · exact get?_measured h

theorem get?_returnId : get? (returnId r response).headers requestIdName =
    (get? response.headers requestIdName).or (get? r.headers requestIdName) := by
  unfold returnId
  split
  · next value hvalue =>
    split
    · next hhas =>
      rw [← isSome_get?, Option.isSome_iff_exists] at hhas
      obtain ⟨own, hown⟩ := hhas
      rw [hown, Option.some_or]
    · rw [get?_append, get?_single, if_pos rfl, hvalue]
  · next hnone => rw [hnone, Option.or_none]

/-- A reply without an identifier makes a response without one. -/
theorem get?_finish {p : Proxy} (h : ∀ reply, answer.bind (Reply.read? pending.sent.method) = some reply →
      has reply.headers requestIdName = false) :
    get? (p.finish pending answer).1.response.headers requestIdName = none := by
  cases hread : answer.bind (Reply.read? pending.sent.method) with
  | none =>
    simp only [Proxy.finish, hread]
    have hplain : get? [Response.plainText] requestIdName = none := by decide
    exact hplain
  | some reply =>
    simp only [Proxy.finish, hread]
    rw [get?_stripHopByHop, get?_eq_none_iff.mpr (h reply hread), ite_self]

/-- What an upstream is sent carries the identifier of the request, unless the client lists the field
among those of the connection. Whatever the client lists, the response carries the identifier, if the
reply has none of its own. -/
theorem request_id_unless_listed (hsent : (g.respond s r).1.sent = some sent)
    (hreply : ∀ asked bytes reply, asked.onWire? = some sent → s.contact asked = some bytes →
      Reply.read? sent.method bytes = some reply → has reply.headers requestIdName = false) :
    get? sent.headers requestIdName =
      (if requestIdName ∈ listedByConnection r.headers then none else some (idOf s.newId r)) ∧
    get? (g.respond s r).1.response.headers requestIdName = some (idOf s.newId r) := by
  obtain ⟨upstream, path, pending, records, bytes, -, hstart, hwire, hcontact, g', hresponse⟩ :=
    exists_start_of_sent hsent
  constructor
  · obtain ⟨t, -, hshaped⟩ := Proxy.sent_of_start hstart
    rw [Request.headers_of_onWire? hwire, hshaped, get?_without (by decide), get?_stripHopByHop,
      listedByConnection_identified, get?_identified]
    have hhop : requestIdName ∉ hopByHop := by decide
    simp only [hhop, or_false]
  · have hnone : get? (g.proxy.finish pending (some bytes)).1.response.headers requestIdName = none := by
      refine get?_finish fun reply hread => hreply pending.sent bytes reply hwire hcontact ?_
      rw [Request.method_of_onWire? hwire]
      exact hread
    rw [hresponse, get?_returnId, get?_complete (by decide), hnone, Option.none_or, get?_identified]

theorem has_of_answering {asked : Request} {bytes : Bytes} {reply : Reply}
    (hcontact : answering.contact asked = some bytes) (h : Reply.read? "GET" bytes = some reply) :
    has reply.headers requestIdName = false := by
  obtain rfl := Option.some.inj hcontact
  have hread : (Reply.read? "GET" (Text.utf8String
      "HTTP/1.1 200 OK\r\ncontent-length: 6\r\n\r\nresult")).map (has ·.headers requestIdName) =
      some false := by decide +kernel
  rw [h] at hread
  exact Option.some.inj hread

/-- A request whose Connection field lists a name, with further fields. -/
def listing (listed : String) (further : Headers) : Request :=
  ⟨"GET", ⟨none, [], "/api/metrics/v1/up".toList, none⟩, .ofText "connection" listed :: further, [], true⟩

/-- A request with two identifiers, the first of which counts. -/
def marked : Request := listing "close, x-hop"
  [.ofText "x-hop" "1", .ofText requestIdName "mine", .ofText requestIdName "other"]

theorem request_id_of_marked : ∃ sent,
    ((inFrontOf host).respond answering marked).1.sent = some sent ∧
      get? sent.headers requestIdName = some (Text.utf8String "mine") ∧
      get? ((inFrontOf host).respond answering marked).1.response.headers requestIdName =
        some (Text.utf8String "mine") := by
  have hget : ((inFrontOf host).respond answering marked).1.sent.map Request.method = some "GET" := by
    decide +kernel
  obtain ⟨sent, hsent, hmethod⟩ := Option.map_eq_some_iff.mp hget
  have hid := request_id_unless_listed hsent fun asked bytes reply _ hcontact hread =>
    has_of_answering hcontact (hmethod ▸ hread)
  have hnot : requestIdName ∉ listedByConnection marked.headers := by decide +kernel
  have hmine : idOf answering.newId marked = Text.utf8String "mine" := by decide +kernel
  rw [if_neg hnot, hmine] at hid
  exact ⟨sent, hsent, hid⟩

/-- A client that brings no identifier and lists the field keeps the new one from the upstream. -/
theorem request_id_of_listed : ∃ sent,
    ((inFrontOf host).respond answering (listing "X-Request-Id" [])).1.sent = some sent ∧
      (∀ asked bytes reply, asked.onWire? = some sent → answering.contact asked = some bytes →
        Reply.read? sent.method bytes = some reply → has reply.headers requestIdName = false) ∧
      get? (listing "X-Request-Id" []).headers requestIdName = none ∧
      get? sent.headers requestIdName ≠ some (Text.utf8String answering.newId) := by
  have hget : ((inFrontOf host).respond answering (listing "X-Request-Id" [])).1.sent.map
      (fun sent => (sent.method, get? sent.headers requestIdName)) = some ("GET", none) := by
    decide +kernel
  obtain ⟨sent, hsent, hparts⟩ := Option.map_eq_some_iff.mp hget
  obtain ⟨hmethod, hnone⟩ := Prod.mk.inj hparts
  refine ⟨sent, hsent, fun asked bytes reply _ hcontact hread => ?_, by decide +kernel, ?_⟩
  · exact has_of_answering hcontact (hmethod ▸ hread)
  · rw [hnone]
    exact (Option.some_ne_none _).symm

end MetricsGateway.Gateway
