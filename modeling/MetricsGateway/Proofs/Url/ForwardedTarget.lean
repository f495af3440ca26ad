import MetricsGateway.Proofs.Url.Authority
import MetricsGateway.Proofs.Url.Faithful

/-!
The parts of the target that a request is forwarded to. Main statement: its scheme, host and port are those of
the endpoint, its query stands for the bytes that the query of the request stands for, and a path that reading
leaves as it is comes after that of the endpoint as it is.
-/

namespace MetricsGateway

open Text

namespace Target

variable {t : Target} {q cs path : List Char} {c : Char} {query : Option (List Char)}

/-- The query of a request: that of a target that could be read. -/
def IsQuery (q : List Char) : Prop := ∃ raw t, read raw = .ok t ∧ t.query = some q

theorem isQueryChar_of_readPath (h : readPath cs = .ok (path, query)) (hq : query = some q) :
    ∀ c ∈ q, isQueryChar c = true := by
  subst hq
  simp only [readPath] at h
  split at h
  · cases h
  · split at h
    · split at h
      · next hall =>
        obtain ⟨-, hq⟩ := Prod.mk.inj (Except.ok.inj h)
        obtain rfl := Option.some.inj hq
        exact List.all_eq_true.mp hall
      · cases h
    · cases h

theorem isQueryChar_of_read {raw : String} (h : read raw = .ok t) (hq : t.query = some q) :
    ∀ c ∈ q, isQueryChar c = true := by
  simp only [read] at h
  split at h
  · cases h
  · split at h
    · cases h
    · obtain rfl := Except.ok.inj h
      cases hq
    -- a path
    · split at h
      · cases h
      · next hpath =>
        obtain rfl := Except.ok.inj h
        exact isQueryChar_of_readPath hpath hq
    · split at h
      · cases h
      · split at h
        · cases h
        · split at h
          -- an authority alone, which has no query
          · split at h
            · obtain rfl := Except.ok.inj h
              cases hq
            · cases h
          -- an absolute address
          · split at h
            · cases h
            · split at h
              · cases h
              · next hpath =>
                obtain rfl := Except.ok.inj h
                exact isQueryChar_of_readPath hpath hq

theorem isSkipped_of_isQueryChar (h : isQueryChar c = true) : Url.isSkipped c = false := by
  rw [Bool.eq_false_iff]
  intro hskip
  simp only [Url.isSkipped, Bool.or_eq_true, beq_iff_eq] at hskip
  obtain (rfl | rfl) | rfl := hskip <;> exact absurd h (by decide)

end Target

namespace Url

variable {base base' : Url} {t : Target} {path q : List Char} {query : Option (List Char)}

/-! ## Paths that are left alone -/

/-- A path that reading a path leaves as it is: nothing in it is encoded, skipped or turned, and none of its
segments is one of the dots. -/
structure LeftAlone (path : List Char) : Prop where
  chars : ∀ c ∈ path, Percent.inPath c = false ∧ c ≠ '\\'
  dots : ∀ segment ∈ splitOnChar '/' path, isSingleDot segment = false ∧ isDoubleDot segment = false

theorem leftAlone_iff : LeftAlone path ↔
    (path.all (fun c => !Percent.inPath c && c != '\\') &&
      (splitOnChar '/' path).all fun segment => !isSingleDot segment && !isDoubleDot segment) = true := by
  simp only [Bool.and_eq_true, List.all_eq_true, Bool.not_eq_true', bne_iff_ne]
  exact ⟨fun h => ⟨h.chars, h.dots⟩, fun h => ⟨h.1, h.2⟩⟩

theorem LeftAlone.settled (h : LeftAlone path) : ∀ segment ∈ splitOnChar '/' path, Settled segment := by
  intro segment hm
  refine ⟨fun c hc => ?_, (h.dots segment hm).1, (h.dots segment hm).2⟩
  obtain ⟨hpath, hslash⟩ := of_mem_splitOnChar hm hc
  exact ⟨(h.chars c hpath).1, hslash, (h.chars c hpath).2⟩

theorem pathText_splitOnChar : pathText (splitOnChar '/' path) = '/' :: path := by
  induction path with
  | nil => rfl
  | cons c path ih =>
    have hne : splitOnChar '/' path ≠ [] := splitOnChar_ne_nil
    obtain ⟨first, rest, hcut⟩ := List.exists_cons_of_ne_nil hne
    rw [hcut, pathText, List.flatMap_cons, List.cons_append, List.cons.injEq] at ih
    rw [splitOnChar, hcut]
    simp only
    split
    · next hc =>
      rw [hc, pathText, List.flatMap_cons, List.flatMap_cons, ← ih.2]
      rfl
    · rw [pathText, List.flatMap_cons, ← ih.2]
      rfl

/-- A path that is left alone comes after the segments read so far as it is. -/
theorem LeftAlone.pathText_resolve (h : LeftAlone path) (above : List (List Char)) :
    pathText (resolve above (rawSegments path)) = pathText above.reverse ++ '/' :: path := by
  have hsettled : ∀ segment ∈ splitOnChar '/' path, Settled segment := h.settled
  have hraws : rawSegments path = splitOnChar '/' path :=
    rawSegments_of_untouched fun segment hm => (hsettled segment hm).untouched
  have hencoded : (splitOnChar '/' path).map (Percent.encode Percent.inPath) = splitOnChar '/' path :=
    (List.map_congr_left fun segment hm => (hsettled segment hm).encode).trans (List.map_id _)
  have hresolve : resolve above (splitOnChar '/' path) =
      above.reverse ++ (splitOnChar '/' path).map (Percent.encode Percent.inPath) :=
    resolve_of_settled fun segment hm => by
      rw [(hsettled segment hm).encode]
      exact hsettled segment hm
  rw [hraws, hresolve, hencoded, pathText_append, pathText_splitOnChar]

/-! ## Queries -/

/-- The query of a request is put in the place of that of the URL, encoded, which decoding takes back. -/
theorem joined_query (hq : Target.IsQuery q) : ∃ q', (base.joined path (some q)).query = some q' ∧
    Percent.decode (utf8 q') = Percent.decode (utf8 q) := by
  obtain ⟨raw, r, hread, hr⟩ := hq
  have hkept : q.filter (!isSkipped ·) = q := by
    refine List.filter_eq_self.mpr fun c hc => ?_
    rw [Target.isSkipped_of_isQueryChar (Target.isQueryChar_of_read hread hr c hc), Bool.not_false]
  refine ⟨_, rfl, ?_⟩
  rw [hkept, Percent.decode_encode Percent.reversible_inQuery]

theorem joined_query_none : (base.joined path none).query = base.query := by
  simp only [joined]
  split <;> rfl

/-! ## Scheme and authority -/

theorem joined_scheme : (base.joined path query).scheme = base.scheme := by
  cases query <;> simp only [joined] <;> split <;> rfl

theorem joined_authorityText : (base.joined path query).authorityText = base.authorityText := by
  cases query <;> simp only [joined] <;> split <;> rfl

/-- URLs that differ in the slashes that end their paths, and in nothing else. -/
structure SameUpToSlashes (base base' : Url) : Prop where
  rest : base' = { base with segments := base'.segments }
  path : withoutTrailingSlashes base'.path = withoutTrailingSlashes base.path

theorem SameUpToSlashes.joined_eq (h : SameUpToSlashes base base') (hpath : path.dropWhile (· == '/') ≠ []) :
    base'.joined path query = base.joined path query := by
  have hmoved (p : List Char) : base'.withPath p = base.withPath p := by
    rw [h.rest]
    rfl
  cases query <;> simp only [joined, List.isEmpty_iff, hpath, if_false, h.path, hmoved]

end Url

/-! ## Targets -/

variable {base : Url} {t : Target} {path : List Char} {query : Option (List Char)}

/-- The target of a request with this path and this query that is forwarded to an endpoint. The path of the
request is taken without the slashes that it begins with. -/
structure ForwardedTo (base : Url) (path : List Char) (query : Option (List Char)) (t : Target) : Prop where
  scheme : t.scheme = some base.scheme.name.toList
  host : t.host = base.host.text.toList
  port : t.port? = base.port
  /-- Not even the user information is changed. -/
  authority : t.authority = base.authorityText
  incoming : ∀ q, query = some q → Target.IsQuery q →
    ∃ q', t.query = some q' ∧ Percent.decode (utf8 q') = Percent.decode (utf8 q)
  own : query = none → t.query = base.query
  kept : path.dropWhile (· == '/') = [] → t.path = base.path
  added : path.dropWhile (· == '/') ≠ [] → Url.LeftAlone (path.dropWhile (· == '/')) →
    t.path = withoutTrailingSlashes base.path ++ '/' :: path.dropWhile (· == '/')
  slashes : path.dropWhile (· == '/') ≠ [] → ∀ base', Url.SameUpToSlashes base base' →
    targetOf base' path query = .ok t

theorem forwardedTo_of_targetOf {raw : String} (hbase : Url.read raw = .ok base)
    (h : targetOf base path query = .ok t) : ForwardedTo base path query t := by
  have hparts : Url.OfParts base := Url.ofParts_of_read hbase
  have hsound : Url.Sound base := hparts.sound
  have htarget := hsound.joined.target h
  have hscheme : t.scheme = some base.scheme.name.toList := by rw [htarget, Url.joined_scheme]
  have hauthority : t.authority = base.authorityText := by rw [htarget, Url.joined_authorityText]
  have hquery : t.query = (base.joined path query).query := by rw [htarget]
  have hpath := path_of_targetOf hsound h
  refine ⟨hscheme, (hparts.host_port hauthority).1, (hparts.host_port hauthority).2, hauthority, ?_, ?_, ?_,
    ?_, ?_⟩
  · rintro q rfl hq
    rw [hquery]
    exact Url.joined_query hq
  · rintro rfl
    rw [hquery, Url.joined_query_none]
  · intro hnil
    rw [hpath, if_pos hnil]
  · intro hne halone
    rw [hpath, if_neg hne, halone.pathText_resolve, List.reverse_reverse, Url.path,
      Url.withoutTrailingSlashes_pathText hsound.settled]
  · intro hne base' hsame
    rw [targetOf, hsame.joined_eq hne]
    exact h

theorem forwardedTo_of_foreign_path : ∃ base t,
    Url.read "http://me@[::1]:9090/prefix/" = .ok base ∧
      targetOf base "//you@far//api".toList (some "query=up'".toList) = .ok t ∧
      Target.IsQuery "query=up'".toList ∧ Url.LeftAlone "you@far//api".toList ∧
      t.path = "/prefix/you@far//api".toList ∧ t.query = some "query=up%27".toList ∧
      ForwardedTo base "//you@far//api".toList (some "query=up'".toList) t := by
  have hread : Url.read "http://me@[::1]:9090/prefix/" = .ok ⟨.http, "me".toList, [],
      .ipv6 [0, 0, 0, 0, 0, 0, 0, 1], some 9090, ["prefix".toList, []], none, none⟩ := by decide +kernel
  have htarget : targetOf ⟨.http, "me".toList, [], .ipv6 [0, 0, 0, 0, 0, 0, 0, 1], some 9090,
      ["prefix".toList, []], none, none⟩ "//you@far//api".toList (some "query=up'".toList) =
      .ok ⟨some "http".toList, "me@[::1]:9090".toList, "/prefix/you@far//api".toList,
        some "query=up%27".toList⟩ := by decide +kernel
  have hquery : Target.IsQuery "query=up'".toList := by
    refine ⟨"/?query=up'", ⟨none, [], ['/'], some "query=up'".toList⟩, ?_, rfl⟩
    decide +kernel
  have halone : Url.LeftAlone "you@far//api".toList := Url.leftAlone_iff.mpr (by decide +kernel)
  exact ⟨_, _, hread, htarget, hquery, halone, rfl, rfl, forwardedTo_of_targetOf hread htarget⟩

end MetricsGateway
