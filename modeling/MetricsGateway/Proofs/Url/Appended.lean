import Mathlib.Data.List.DropRight
import MetricsGateway.Proofs.Url.Segments
import MetricsGateway.Traffic.Forwarding

/-!
Paths put after the path of a URL: the segments of the URL stand where the dots of the new path start
from, so that they go as soon as the dots lead further up than the new path has come down.
-/

namespace MetricsGateway.Url

variable {segment raw : List Char} {segments above own raws : List (List Char)}
  {path cs rest : List Char} {base : Url} {query : Option (List Char)}

/-! ## Texts of settled segments -/

theorem pathText_append (xs ys : List (List Char)) : pathText (xs ++ ys) = pathText xs ++ pathText ys :=
  List.flatMap_append

/-- A character that reading a path neither skips nor turns. -/
def Untouched (c : Char) : Prop := isSkipped c = false ∧ slashed c = c

theorem Settled.untouched (h : Settled segment) : ∀ c ∈ segment, Untouched c := by
  intro c hc
  obtain ⟨hplain, -, hback⟩ := h.plain c hc
  refine ⟨?_, if_neg hback⟩
  rw [Bool.eq_false_iff]
  intro hskip
  simp only [isSkipped, Bool.or_eq_true, beq_iff_eq] at hskip
  obtain (rfl | rfl) | rfl := hskip <;> exact absurd hplain (by decide)

theorem untouched_of_pathText (hs : ∀ s ∈ segments, Settled s) :
    ∀ c ∈ pathText segments, Untouched c := by
  intro c hc
  obtain ⟨s, hm, hc⟩ := List.mem_flatMap.mp hc
  obtain rfl | hc := List.mem_cons.mp hc
  · exact ⟨rfl, rfl⟩
  · exact (hs s hm).untouched c hc

theorem turned_append (xs ys : List Char) : turned (xs ++ ys) = turned xs ++ turned ys := by
  rw [turned, List.filter_append, List.map_append]
  rfl

theorem turned_of_untouched (h : ∀ c ∈ cs, Untouched c) : turned cs = cs := by
  have hkept : cs.filter (!isSkipped ·) = cs :=
    List.filter_eq_self.mpr fun c hc => by rw [(h c hc).1, Bool.not_false]
  rw [turned, hkept]
  exact (List.map_congr_left fun c hc => (h c hc).2).trans (List.map_id' cs)

theorem turned_slash_cons : turned ('/' :: cs) = '/' :: turned cs := rfl

theorem splitOnChar_pathText (hs : ∀ s ∈ segments, Settled s) :
    Text.splitOnChar '/' (pathText segments ++ '/' :: rest) =
      [] :: (segments ++ Text.splitOnChar '/' rest) := by
  induction segments with
  | nil => exact Text.splitOnChar_cons_self
  | cons segment segments ih =>
    have hslash : '/' ∉ segment := fun hm =>
      ((hs segment List.mem_cons_self).plain '/' hm).2.1 rfl
    have hcut := ih fun s hm => hs s (List.mem_cons_of_mem segment hm)
    have htext : pathText (segment :: segments) ++ '/' :: rest =
        '/' :: (segment ++ (pathText segments ++ '/' :: rest)) := by
      simp [pathText]
    rw [htext, Text.splitOnChar_cons_self, Text.splitOnChar_append hslash hcut, List.append_nil]
    rfl

/-- Reading a path after settled segments: they are what has been read when the path begins. -/
theorem segmentsOf_append (hs : ∀ s ∈ segments, Settled s) :
    segmentsOf (pathText segments ++ '/' :: path) = resolve segments.reverse (rawSegments path) := by
  have hturned : turned (pathText segments ++ '/' :: path) = pathText segments ++ '/' :: turned path := by
    rw [turned_append, turned_of_untouched (untouched_of_pathText hs), turned_slash_cons]
  have hcut : Text.splitOnChar '/' (pathText segments ++ '/' :: turned path) =
      [] :: (segments ++ rawSegments path) := splitOnChar_pathText hs
  -- the slash in front, which is dropped before the path is cut
  obtain ⟨first, htext⟩ : ∃ first, pathText segments ++ '/' :: turned path = '/' :: first := by
    cases segments with
    | nil => exact ⟨_, rfl⟩
    | cons s segments => exact ⟨_, rfl⟩
  rw [htext, Text.splitOnChar_cons_self, List.cons.injEq] at hcut
  rw [segmentsOf_of_turned (hturned.trans htext), hcut.2, resolve_settled hs rawSegments_ne_nil,
    List.append_nil]

/-! ## Segments that are kept -/

/-- The segments of a path without its trailing slashes. -/
def kept (segments : List (List Char)) : List (List Char) := segments.rdropWhile List.isEmpty

theorem mem_of_kept (h : segment ∈ kept segments) : segment ∈ segments :=
  (List.rdropWhile_prefix _ segments).subset h

theorem withoutTrailingSlashes_pathText (hs : ∀ s ∈ segments, Settled s) :
    withoutTrailingSlashes (pathText segments) = pathText (kept segments) := by
  have hdrop (cs : List Char) : withoutTrailingSlashes cs = cs.rdropWhile (· == '/') := rfl
  rw [hdrop]
  induction segments using List.reverseRecOn with
  | nil => rfl
  | append_singleton segments last ih =>
    have hbefore := ih fun s hm => hs s (List.mem_append_left _ hm)
    obtain rfl | ⟨front, c, rfl⟩ := last.eq_nil_or_concat'
    · rw [kept, List.rdropWhile_concat_pos _ _ _ rfl, pathText_append]
      exact (List.rdropWhile_concat_pos _ _ '/' rfl).trans hbefore
    · have hc : c ≠ '/' := ((hs (front ++ [c]) (by simp)).plain c (by simp)).2.1
      have htext : pathText (segments ++ [front ++ [c]]) = pathText segments ++ '/' :: front ++ [c] := by
        simp [pathText]
      rw [kept, List.rdropWhile_concat_neg _ _ _ (by simp), htext]
      exact List.rdropWhile_concat_neg _ _ c (by simpa using hc)

/-- The segments of a URL with a path put after its own: what is kept of its own, and the new path
resolved from there. -/
theorem joined_segments (hs : ∀ s ∈ base.segments, Settled s) (h : path.dropWhile (· == '/') ≠ []) :
    (base.joined path query).segments =
      resolve (kept base.segments).reverse (rawSegments (path.dropWhile (· == '/'))) := by
  have hkept : ∀ s ∈ kept base.segments, Settled s := fun s hm => hs s (mem_of_kept hm)
  have hpath : (base.withPath (withoutTrailingSlashes base.path ++ '/' :: path.dropWhile (· == '/'))).segments
      = resolve (kept base.segments).reverse (rawSegments (path.dropWhile (· == '/'))) := by
    rw [withPath, Url.path, withoutTrailingSlashes_pathText hs]
    exact segmentsOf_append hkept
  cases query <;> simpa only [joined, List.isEmpty_iff, h, if_false, withQuery_segments] using hpath

theorem joined_of_slashes (h : path.dropWhile (· == '/') = []) :
    (base.joined path query).segments = base.segments := by
  cases query <;> simp only [joined, h, List.isEmpty_nil, if_true, withQuery_segments]

/-! ## Climbing -/

/-- Do the dots of a path lead up where nothing is left of the path itself? Its segments so far are
`own`, last first. -/
def climbs (own : List (List Char)) : List (List Char) → Bool
  | [] => false
  | raw :: raws =>
    (own.isEmpty && isDoubleDot (Percent.encode Percent.inPath raw)) || climbs (enter own raw) raws

theorem enter_append (h : (own.isEmpty && isDoubleDot (Percent.encode Percent.inPath raw)) = false) :
    enter (own ++ above) raw = enter own raw ++ above := by
  rw [enter, enter]
  split
  · next hd =>
    cases own with
    | nil => simp [hd] at h
    | cons last own =>
      rw [List.cons_append, leave, leave]
      split <;> rfl
  · split <;> rfl

/-- A path that does not climb leaves what stands above it alone. -/
theorem resolve_of_not_climbs (hraws : raws ≠ []) (h : climbs own raws = false) :
    resolve (own ++ above) raws = above.reverse ++ resolve own raws := by
  -- on what is still to be read: each segment changes what the path has of its own
  induction raws generalizing own with
  | nil => exact absurd rfl hraws
  | cons raw raws ih =>
    obtain ⟨hhere, hrest⟩ := Bool.or_eq_false_iff.mp h
    have henter : enter (own ++ above) raw = enter own raw ++ above := enter_append hhere
    by_cases hnil : raws = []
    · subst hnil
      rw [resolve_singleton, resolve_singleton, henter]
      split
      · rw [← List.cons_append, List.reverse_append]
      · rw [List.reverse_append]
    · rw [resolve_cons hnil, resolve_cons hnil, henter, ih hnil hrest]

end MetricsGateway.Url
