import MetricsGateway.Proofs.Traffic.Forwarded
import MetricsGateway.Proofs.Url.Faithful

/-!
The path with which a query arrives at its upstream. Main statement: segment by segment it is the path of the
endpoint and the path that the client asked for, unless a segment of the latter is altered by being decoded
on the way and read again.
-/

namespace MetricsGateway

/-- What stands for an empty path stands there from the first. -/
theorem Target.path_of_parts (t : Target) : Target.path ⟨none, [], t.path, t.query⟩ = t.path := by
  by_cases hquery : t.query.isSome
  · have hne : t.path.isEmpty = false := by
      unfold Target.path
      split <;> simp_all
    simp [Target.path.eq_def ⟨none, [], t.path, t.query⟩, hne]
  · simp [Target.path.eq_def ⟨none, [], t.path, t.query⟩, hquery]

namespace Gateway

open Url

variable {g : Gateway} {s : Surroundings} {r sent : Request} {raw : String} {tail path : List Char}

/-- A query is sent where its decoded tail leads from the endpoint, but a tunnel has no path. -/
theorem exists_target_of_sent (hroute : Route.ofPath g.options.profile r.target.path = .query tail)
    (h : (g.respond s r).1.sent = some sent) : ∃ path t, queryPath? tail = some path ∧
      targetOf g.proxy.queryEndpoint path r.target.query = .ok t ∧
      sent.target = if r.method = "CONNECT" then ⟨none, t.authority, [], none⟩
        else ⟨none, [], t.path, t.query⟩ := by
  obtain ⟨upstream, path, pending, records, bytes, hforward, hstart, hwire, -⟩ := exists_start_of_sent h
  rw [hroute] at hforward
  cases hforward with
  | query hpath =>
    obtain ⟨t, htarget, hshaped⟩ := Proxy.sent_of_start hstart
    have hsent := Request.target_of_onWire? hwire
    rw [identified_target] at htarget
    rw [hshaped] at hsent
    simp only [identified_method] at hsent
    exact ⟨path, t, hpath, htarget, hsent⟩

/-- Unless it is for a tunnel, a request whose segments are not altered has at its upstream the decoded
segments of the endpoint's path, without its trailing slashes, and then its own, without the slashes that
its tail begins with. If the tail is only slashes, the path is that of the endpoint. -/
theorem query_path_unless_altered (hendpoint : Url.read raw = .ok g.proxy.queryEndpoint)
    (hroute : Route.ofPath g.options.profile r.target.path = .query tail)
    (htail : ∀ segment ∈ decodedSegments tail, Unaltered segment)
    (hsent : (g.respond s r).1.sent = some sent) :
    decodedSegments sent.target.path =
      if r.method = "CONNECT" then [[]]
      else if tail.dropWhile (· == '/') = [] then decodedSegments g.proxy.queryEndpoint.path
      else decodedSegments (withoutTrailingSlashes g.proxy.queryEndpoint.path) ++
        decodedSegments (tail.dropWhile (· == '/')) := by
  obtain ⟨path, t, hpath, htarget, hshape⟩ := exists_target_of_sent hroute hsent
  have hsound := sound_of_read hendpoint
  rw [hshape]
  split
  · rfl
  · rw [Target.path_of_parts]
    exact decodedSegments_of_targetOf hsound (Text.utf8_of_ofUtf8? hpath) htail htarget

/-- An endpoint with a path. -/
def prefixed : Url :=
  ⟨.http, [], [], .ipv6 [0, 0, 0, 0, 0, 0, 0, 1], some 9090, ["pre".toList, "fix".toList, []], none, none⟩

theorem read_prefixed : Url.read "http://[::1]:9090/pre/fix/" = .ok prefixed := by decide +kernel

def asking (path : String) : Request := ⟨"GET", ⟨none, [], path.toList, none⟩, [], [], true⟩

/-- A space and a percent sign that nothing follows are decoded and keep their place. -/
theorem query_path_of_plain : ∃ sent,
    ((inFrontOf prefixed).respond answering (asking "/api/metrics/v1/label/a%20b/100%25/")).1.sent =
        some sent ∧
      decodedSegments sent.target.path =
        ["", "pre", "fix", "label", "a b", "100%", ""].map Text.utf8String := by
  have hforwarded : ((inFrontOf prefixed).respond answering
      (asking "/api/metrics/v1/label/a%20b/100%25/")).1.sent.isSome = true := by
    decide +kernel
  obtain ⟨sent, hsent⟩ := Option.isSome_iff_exists.mp hforwarded
  have hroute : Route.ofPath (inFrontOf prefixed).options.profile
      (asking "/api/metrics/v1/label/a%20b/100%25/").target.path = .query "label/a%20b/100%25/".toList := by
    decide +kernel
  have hpath := query_path_unless_altered read_prefixed hroute (by decide +kernel) hsent
  refine ⟨sent, hsent, hpath.trans ?_⟩
  decide +kernel

/-- A slash that is encoded within a segment cuts it in two on the way. -/
theorem query_path_of_encoded_slash : ∃ sent,
    Url.read "http://[::1]:9090/pre/fix/" = .ok (inFrontOf prefixed).proxy.queryEndpoint ∧
      Route.ofPath (inFrontOf prefixed).options.profile (asking "/api/metrics/v1/a%2Fb").target.path =
        .query "a%2Fb".toList ∧
      ((inFrontOf prefixed).respond answering (asking "/api/metrics/v1/a%2Fb")).1.sent = some sent ∧
      decodedSegments sent.target.path ≠
        decodedSegments (withoutTrailingSlashes prefixed.path) ++ decodedSegments "a%2Fb".toList := by
  have hshape : ((inFrontOf prefixed).respond answering (asking "/api/metrics/v1/a%2Fb")).1.sent.map
      (fun sent => sent.target.path) = some "/pre/fix/a/b".toList := by
    decide +kernel
  obtain ⟨sent, hsent, hpath⟩ := Option.map_eq_some_iff.mp hshape
  refine ⟨sent, read_prefixed, by decide +kernel, hsent, ?_⟩
  rw [hpath]
  decide +kernel

end Gateway

end MetricsGateway
