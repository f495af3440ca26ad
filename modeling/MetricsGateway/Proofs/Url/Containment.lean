import MetricsGateway.Proofs.Url.Appended
import MetricsGateway.Proofs.Url.Rereading

/-!
Where the path of a forwarded request lies: under the path of the endpoint, as long as the dots of the
request's own path stay within it. Dots that climb further take the segments of the endpoint with them.
-/

namespace MetricsGateway

open Url

variable {base : Url} {t : Target} {path : List Char} {query : Option (List Char)}

/-- The path of the target is that of the endpoint when the request adds none. Otherwise it is read from
the endpoint's segments, last first, on. -/
theorem path_of_targetOf (hbase : Sound base) (h : targetOf base path query = .ok t) :
    t.path = if path.dropWhile (· == '/') = [] then base.path
      else pathText (resolve (kept base.segments).reverse (rawSegments (path.dropWhile (· == '/')))) := by
  have hjoined : Sound (base.joined path query) := hbase.joined
  have hpart : t.path = (base.joined path query).path := by
    obtain rfl := hjoined.target h
    obtain ⟨rest, hrest⟩ := hjoined.exists_path
    simp [Target.path, hrest]
  rw [hpart, Url.path]
  split
  · next hslashes => rw [joined_of_slashes hslashes, Url.path]
  · next hpath => rw [joined_segments hbase.settled hpath]

/-- A request whose dots do not climb is forwarded to the path of the endpoint or to one below it. -/
theorem target_path_within_base {raw : String} (hbase : Url.read raw = .ok base)
    (hdots : climbs [] (rawSegments (path.dropWhile (· == '/'))) = false)
    (htarget : targetOf base path query = .ok t) :
    t.path = base.path ∨ withoutTrailingSlashes base.path ++ ['/'] <+: t.path := by
  have hsound : Sound base := sound_of_read hbase
  have hpath := path_of_targetOf hsound htarget
  split at hpath
  · exact .inl hpath
  · right
    have hresolved : resolve ([] ++ (kept base.segments).reverse)
        (rawSegments (path.dropWhile (· == '/'))) = (kept base.segments).reverse.reverse ++
          resolve [] (rawSegments (path.dropWhile (· == '/'))) :=
      resolve_of_not_climbs rawSegments_ne_nil hdots
    rw [List.nil_append, List.reverse_reverse] at hresolved
    have hne : resolve [] (rawSegments (path.dropWhile (· == '/'))) ≠ [] :=
      resolve_ne_nil rawSegments_ne_nil
    obtain ⟨first, own, hown⟩ := List.exists_cons_of_ne_nil hne
    rw [hpath, hresolved, hown, pathText_append, Url.path, withoutTrailingSlashes_pathText hsound.settled]
    exact ⟨first ++ pathText own, by simp [pathText]⟩

theorem target_path_of_inner_dots : ∃ base t,
    Url.read "http://[::1]:9090/prefix/" = .ok base ∧
      climbs [] (rawSegments ("/api/v1/%2e%2E/./query".toList.dropWhile (· == '/'))) = false ∧
      targetOf base "/api/v1/%2e%2E/./query".toList (some "query=up".toList) = .ok t ∧
      t.path = "/prefix/api/query".toList ∧
      (t.path = base.path ∨ withoutTrailingSlashes base.path ++ ['/'] <+: t.path) := by
  have hread : Url.read "http://[::1]:9090/prefix/" = .ok ⟨.http, [], [], .ipv6 [0, 0, 0, 0, 0, 0, 0, 1],
      some 9090, ["prefix".toList, []], none, none⟩ := by decide +kernel
  have hdots : climbs [] (rawSegments ("/api/v1/%2e%2E/./query".toList.dropWhile (· == '/'))) = false := by
    decide
  have htarget : targetOf ⟨.http, [], [], .ipv6 [0, 0, 0, 0, 0, 0, 0, 1], some 9090,
      ["prefix".toList, []], none, none⟩ "/api/v1/%2e%2E/./query".toList (some "query=up".toList) =
      .ok ⟨some "http".toList, "[::1]:9090".toList, "/prefix/api/query".toList, some "query=up".toList⟩ := by
    decide +kernel
  exact ⟨_, _, hread, hdots, htarget, rfl, target_path_within_base hread hdots htarget⟩

/-- One segment up from the start of its own path, and a request is outside the path of the endpoint. -/
theorem target_path_of_outer_dots : ∃ base t,
    Url.read "http://[::1]:9090/prefix/" = .ok base ∧
      targetOf base "../up".toList none = .ok t ∧
      t.path = "/up".toList ∧
      ¬ (t.path = base.path ∨ withoutTrailingSlashes base.path ++ ['/'] <+: t.path) := by
  refine ⟨⟨.http, [], [], .ipv6 [0, 0, 0, 0, 0, 0, 0, 1], some 9090, ["prefix".toList, []], none, none⟩,
    ⟨some "http".toList, "[::1]:9090".toList, "/up".toList, none⟩, ?_, ?_, rfl, ?_⟩
  · decide +kernel
  · decide +kernel
  · decide

end MetricsGateway
