import MetricsGateway.Proofs.Text.Case
import MetricsGateway.Proofs.Url.Containment
import MetricsGateway.Proofs.Url.Decoding

/-!
The decoded segments of a path put after that of a URL. Main statement: they come unchanged after those of the
URL, unless a segment, once decoded, is altered by being read again.
-/

namespace MetricsGateway.Url

open Text

variable {segment rest raw : List Char} {segments above raws : List (List Char)} {path tail : List Char}
  {base : Url} {query : Option (List Char)} {bytes : Bytes} {c d : Char}

/-! ## Dots -/

/-- The spellings of a dot. -/
inductive SpellsDot : List Char → Prop where
  | plain : SpellsDot ['.']
  | escaped {e : Char} (h : e = 'e' ∨ e = 'E') : SpellsDot ['%', '2', e]

theorem eq_or_of_toLower (h : c.toLower = 'e') : c = 'e' ∨ c = 'E' := by
  obtain hc | ⟨-, -, hc⟩ := toLower_cases c
  · exact .inl (by rw [← h, hc])
  · rw [h] at hc
    have hE : 'E'.toNat + 0x20 = c.toNat + 0x20 := hc
    exact .inr (Char.toNat_inj.mp (Nat.add_right_cancel hE).symm)

theorem spellsDot_of_lower (h : segment.map Char.toLower = ['.'] ∨
    segment.map Char.toLower = ['%', '2', 'e']) : SpellsDot segment := by
  obtain h | h := h
  · obtain ⟨a, more, rfl, ha, hmore⟩ := List.map_eq_cons_iff.mp h
    obtain rfl := List.map_eq_nil_iff.mp hmore
    rw [eq_of_toLower ha (by decide)]
    exact .plain
  · obtain ⟨a, more, rfl, ha, hmore⟩ := List.map_eq_cons_iff.mp h
    obtain ⟨b, more, rfl, hb, hmore⟩ := List.map_eq_cons_iff.mp hmore
    obtain ⟨c, more, rfl, hc, hmore⟩ := List.map_eq_cons_iff.mp hmore
    obtain rfl := List.map_eq_nil_iff.mp hmore
    rw [eq_of_toLower ha (by decide), eq_of_toLower hb (by decide)]
    exact .escaped (eq_or_of_toLower hc)

theorem SpellsDot.decode (h : SpellsDot segment) :
    Percent.decode (utf8 (segment ++ rest)) = 0x2E :: Percent.decode (utf8 rest) := by
  cases h with
  | plain => exact Percent.decode_cons_of_ne (by decide)
  | escaped h => obtain rfl | rfl := h <;> exact Percent.decode_of_escaped? rfl

theorem decode_of_isSingleDot (h : isSingleDot segment = true) :
    Percent.decode (utf8 segment) = [0x2E] := by
  simp only [isSingleDot, Bool.or_eq_true, beq_iff_eq] at h
  have hdecode : Percent.decode (utf8 (segment ++ [])) = 0x2E :: Percent.decode (utf8 []) :=
    (spellsDot_of_lower h).decode
  rwa [List.append_nil] at hdecode

theorem decode_of_isDoubleDot (h : isDoubleDot segment = true) :
    Percent.decode (utf8 segment) = [0x2E, 0x2E] := by
  simp only [isDoubleDot, Bool.or_eq_true, beq_iff_eq] at h
  -- each spelling is two spellings of a dot
  obtain ⟨front, back, rfl, hfront, hback⟩ : ∃ front back, segment = front ++ back ∧
      SpellsDot front ∧ SpellsDot back := by
    have hcut (xs ys : List Char) (hmap : segment.map Char.toLower = xs ++ ys)
        (hxs : xs = ['.'] ∨ xs = ['%', '2', 'e']) (hys : ys = ['.'] ∨ ys = ['%', '2', 'e']) :
        ∃ front back, segment = front ++ back ∧ SpellsDot front ∧ SpellsDot back := by
      obtain ⟨front, back, rfl, rfl, rfl⟩ := List.map_eq_append_iff.mp hmap
      exact ⟨front, back, rfl, spellsDot_of_lower hxs, spellsDot_of_lower hys⟩
    obtain ((h | h) | h) | h := h
    · exact hcut ['.'] _ h (.inl rfl) (.inl rfl)
    · exact hcut ['.'] _ h (.inl rfl) (.inr rfl)
    · exact hcut ['%', '2', 'e'] _ h (.inr rfl) (.inl rfl)
    · exact hcut ['%', '2', 'e'] _ h (.inr rfl) (.inr rfl)
  have hdecode : Percent.decode (utf8 (back ++ [])) = 0x2E :: Percent.decode (utf8 []) := hback.decode
  rw [List.append_nil] at hdecode
  rw [hfront.decode, hdecode]
  rfl

/-! ## Segments that are not altered -/

/-- The segments of a path, each one decoded. -/
def decodedSegments (path : List Char) : List Bytes :=
  (splitOnChar '/' path).map fun segment => Percent.decode (utf8 segment)

/-- A decoded segment that reading a path leaves as it is: it ends no segment, nothing in it is skipped or
decoded again, and it is not one of the dots. -/
structure Unaltered (bytes : Bytes) : Prop where
  slash : 0x2F ∉ bytes
  backslash : 0x5C ∉ bytes
  skipped : 0x09 ∉ bytes ∧ 0x0A ∉ bytes ∧ 0x0D ∉ bytes
  decoded : Percent.decode bytes = bytes
  dots : bytes ≠ [0x2E] ∧ bytes ≠ [0x2E, 0x2E]

instance : DecidablePred Unaltered := fun bytes =>
  decidable_of_iff (0x2F ∉ bytes ∧ 0x5C ∉ bytes ∧ (0x09 ∉ bytes ∧ 0x0A ∉ bytes ∧ 0x0D ∉ bytes) ∧
      Percent.decode bytes = bytes ∧ bytes ≠ [0x2E] ∧ bytes ≠ [0x2E, 0x2E])
    ⟨fun ⟨h1, h2, h3, h4, h5⟩ => ⟨h1, h2, h3, h4, h5⟩, fun h => ⟨h.1, h.2, h.3, h.4, h.5⟩⟩

theorem Unaltered.plain (h : Unaltered (utf8 raw)) : ∀ c ∈ raw, c ≠ '/' ∧ c ≠ '\\' ∧ Untouched c := by
  intro c hc
  have hne {d : Char} (hd : d.toNat < 0x80) (hmem : UInt8.ofNat d.toNat ∉ utf8 raw) : c ≠ d := by
    rintro rfl
    exact hmem ((mem_utf8 hd).mpr hc)
  have hback : c ≠ '\\' := hne (by decide) h.backslash
  refine ⟨hne (by decide) h.slash, hback, ?_, if_neg hback⟩
  have htab : c ≠ '\t' := hne (by decide) h.skipped.1
  have hfeed : c ≠ '\n' := hne (by decide) h.skipped.2.1
  have hreturn : c ≠ '\r' := hne (by decide) h.skipped.2.2
  simp [isSkipped, htab, hfeed, hreturn]

theorem Unaltered.decode_encode (h : Unaltered (utf8 raw)) :
    Percent.decode (utf8 (Percent.encode Percent.inPath raw)) = utf8 raw := by
  rw [Percent.decode_encode Percent.reversible_inPath, h.decoded]

theorem Unaltered.settled (h : Unaltered (utf8 raw)) : Settled (Percent.encode Percent.inPath raw) := by
  refine settled_encode (fun c hc => ⟨(h.plain c hc).1, (h.plain c hc).2.1⟩) ?_ ?_
  · rw [Bool.eq_false_iff]
    intro hdots
    exact h.dots.2 (h.decode_encode.symm.trans (decode_of_isDoubleDot hdots))
  · rw [Bool.eq_false_iff]
    intro hdot
    exact h.dots.1 (h.decode_encode.symm.trans (decode_of_isSingleDot hdot))

/-- Segments without dots are put after those read before. -/
theorem resolve_of_settled (h : ∀ raw ∈ raws, Settled (Percent.encode Percent.inPath raw)) :
    resolve above raws = above.reverse ++ raws.map (Percent.encode Percent.inPath) := by
  induction raws generalizing above with
  | nil => simp [resolve]
  | cons raw raws ih =>
    have hraw := h raw List.mem_cons_self
    have henter : enter above raw = Percent.encode Percent.inPath raw :: above := by
      simp [enter, hraw.double, hraw.single]
    by_cases hnil : raws = []
    · subst hnil
      simp [resolve_singleton, henter, hraw.double, hraw.single]
    · rw [resolve_cons hnil, henter, ih fun s hs => h s (List.mem_cons_of_mem raw hs)]
      simp

theorem rawSegments_of_untouched (h : ∀ raw ∈ splitOnChar '/' path, ∀ c ∈ raw, Untouched c) :
    rawSegments path = splitOnChar '/' path := by
  rw [rawSegments, turned_of_untouched]
  intro c hc
  have hpath : ['/'].intercalate (splitOnChar '/' path) = path := by
    rw [splitOnChar_eq_splitOn, List.intercalate_splitOn]
  rw [← hpath] at hc
  obtain hc | ⟨raw, hraw, hc⟩ := mem_intercalate hc
  · rw [List.mem_singleton.mp hc]
    exact ⟨rfl, rfl⟩
  · exact h raw hraw c hc

theorem rawSegments_of_unaltered (h : ∀ raw ∈ splitOnChar '/' path, Unaltered (utf8 raw)) :
    rawSegments path = splitOnChar '/' path :=
  rawSegments_of_untouched fun raw hraw c hc => ((h raw hraw).plain c hc).2.2

theorem splitOnChar_of_settled (hs : ∀ s ∈ segments, Settled s) :
    splitOnChar '/' (pathText segments) = [] :: segments := by
  obtain rfl | ⟨front, last, rfl⟩ := segments.eq_nil_or_concat'
  · rfl
  · have hlast : '/' ∉ last := fun hm => ((hs last (by simp)).plain '/' hm).2.1 rfl
    have htext : pathText (front ++ [last]) = pathText front ++ '/' :: last := by
      simp [pathText]
    have hself : splitOnChar '/' last = [last] := by
      rw [splitOnChar_eq_splitOn, List.splitOn_eq_singleton hlast]
    rw [htext, splitOnChar_pathText fun s hm => hs s (List.mem_append_left _ hm), hself]

theorem decodedSegments_pathText (hs : ∀ s ∈ segments, Settled s) : decodedSegments (pathText segments) =
    [] :: segments.map fun segment => Percent.decode (utf8 segment) := by
  rw [decodedSegments, splitOnChar_of_settled hs, List.map_cons]
  rfl

/-- Reading unaltered segments after settled ones adds them as they are. -/
theorem decodedSegments_resolve (hs : ∀ s ∈ segments, Settled s)
    (hraws : ∀ raw ∈ splitOnChar '/' path, Unaltered (utf8 raw)) :
    decodedSegments (pathText (resolve segments.reverse (rawSegments path))) =
      decodedSegments (pathText segments) ++ (splitOnChar '/' path).map utf8 := by
  have hsettled : ∀ raw ∈ splitOnChar '/' path, Settled (Percent.encode Percent.inPath raw) :=
    fun raw hm => (hraws raw hm).settled
  have hall : ∀ s ∈ segments ++ (splitOnChar '/' path).map (Percent.encode Percent.inPath), Settled s := by
    intro s hm
    obtain hm | hm := List.mem_append.mp hm
    · exact hs s hm
    · obtain ⟨raw, hraw, rfl⟩ := List.mem_map.mp hm
      exact hsettled raw hraw
  have hdecoded : (splitOnChar '/' path).map
      (fun raw => Percent.decode (utf8 (Percent.encode Percent.inPath raw))) =
      (splitOnChar '/' path).map utf8 :=
    List.map_congr_left fun raw hm => (hraws raw hm).decode_encode
  rw [rawSegments_of_unaltered hraws, resolve_of_settled hsettled, List.reverse_reverse,
    decodedSegments_pathText hall, decodedSegments_pathText hs, List.map_append, List.map_map, ← hdecoded]
  rfl

/-! ## Tails -/

theorem mem_splitOnChar_dropWhile (h : segment ∈ splitOnChar '/' (tail.dropWhile (· == '/'))) :
    segment ∈ splitOnChar '/' tail := by
  induction tail with
  | nil => exact h
  | cons c tail ih =>
    by_cases hc : c = '/'
    · subst hc
      rw [List.dropWhile_cons_of_pos (by simp)] at h
      rw [splitOnChar_cons_self]
      exact List.mem_cons_of_mem [] (ih h)
    · rwa [List.dropWhile_cons_of_neg (by simpa using hc)] at h

/-- A path that is a tail decoded, which holds no more slashes than the tail. -/
structure DecodesTo (tail path : List Char) : Prop where
  bytes : utf8 path = Percent.decode (utf8 tail)
  slashes : ∀ segment ∈ splitOnChar '/' tail, 0x2F ∉ Percent.decode (utf8 segment)

theorem partwise_decode_utf8 : Partwise (fun cs => Percent.decode (utf8 cs)) '/' 0x2F :=
  (Percent.partwise_decode (b := 0x2F) (by decide) rfl).comp (partwise_utf8 '/' (by decide))

theorem not_mem_utf8_of_mem_splitOn (h : segment ∈ path.splitOn '/') : 0x2F ∉ utf8 segment := by
  rw [← splitOnChar_eq_splitOn] at h
  have hslash : '/' ∉ segment := fun hm => (of_mem_splitOnChar h hm).2 rfl
  exact fun hm => hslash ((mem_utf8 (by decide)).mp hm)

/-- The segments of the decoded tail are the decoded segments. -/
theorem DecodesTo.map_utf8 (h : DecodesTo tail path) :
    (splitOnChar '/' path).map utf8 = decodedSegments tail := by
  have hslashes := h.slashes
  rw [splitOnChar_eq_splitOn] at hslashes
  have htail := partwise_decode_utf8.splitOn hslashes
  have hpath : (utf8 path).splitOn 0x2F = (path.splitOn '/').map utf8 :=
    (partwise_utf8 '/' (by decide)).splitOn fun _ hm => not_mem_utf8_of_mem_splitOn hm
  rw [decodedSegments, splitOnChar_eq_splitOn, splitOnChar_eq_splitOn, ← htail, ← hpath, ← h.bytes]

theorem DecodesTo.dropWhile (h : DecodesTo tail path) :
    DecodesTo (tail.dropWhile (· == '/')) (path.dropWhile (· == '/')) where
  bytes := by
    have hslashes := h.slashes
    rw [splitOnChar_eq_splitOn] at hslashes
    have htail := partwise_decode_utf8.dropWhile hslashes
    have hpath : (utf8 path).dropWhile (· == 0x2F) = utf8 (path.dropWhile (· == '/')) :=
      (partwise_utf8 '/' (by decide)).dropWhile fun _ hm => not_mem_utf8_of_mem_splitOn hm
    rw [← htail, ← hpath, h.bytes]
  slashes _ hm := h.slashes _ (mem_splitOnChar_dropWhile hm)

theorem DecodesTo.eq_nil_iff (h : DecodesTo tail path) : path = [] ↔ tail = [] :=
  calc path = [] ↔ utf8 path = [] := (partwise_utf8 '/' (by decide)).eq_nil_iff.symm
    _ ↔ Percent.decode (utf8 tail) = [] := by rw [h.bytes]
    _ ↔ tail = [] := partwise_decode_utf8.eq_nil_iff

/-! ## Paths put after that of a URL -/

/-- The target has the decoded segments of the URL, without those that end its path empty, and then those of
the tail, unless the tail is only slashes. -/
theorem decodedSegments_of_targetOf {t : Target} (hbase : Sound base)
    (hpath : utf8 path = Percent.decode (utf8 tail))
    (htail : ∀ segment ∈ decodedSegments tail, Unaltered segment) (h : targetOf base path query = .ok t) :
    decodedSegments t.path =
      if tail.dropWhile (· == '/') = [] then decodedSegments base.path
      else decodedSegments (withoutTrailingSlashes base.path) ++
        decodedSegments (tail.dropWhile (· == '/')) := by
  have hdecodes : DecodesTo tail path :=
    ⟨hpath, fun segment hm => (htail _ (List.mem_map_of_mem hm)).slash⟩
  have hown := hdecodes.dropWhile
  rw [path_of_targetOf hbase h]
  by_cases hnil : tail.dropWhile (· == '/') = []
  · rw [if_pos (hown.eq_nil_iff.mpr hnil), if_pos hnil]
  · have hkept : ∀ s ∈ kept base.segments, Settled s := fun s hm => hbase.settled s (mem_of_kept hm)
    have hraws : ∀ raw ∈ splitOnChar '/' (path.dropWhile (· == '/')), Unaltered (utf8 raw) := by
      intro raw hm
      have hmem : utf8 raw ∈ decodedSegments (tail.dropWhile (· == '/')) :=
        hown.map_utf8 ▸ List.mem_map_of_mem hm
      obtain ⟨segment, hsegment, hraw⟩ := List.mem_map.mp hmem
      exact htail _ (hraw ▸ List.mem_map_of_mem (mem_splitOnChar_dropWhile hsegment))
    rw [if_neg (mt hown.eq_nil_iff.mp hnil), if_neg hnil, decodedSegments_resolve hkept hraws,
      hown.map_utf8, Url.path, withoutTrailingSlashes_pathText hbase.settled]

end MetricsGateway.Url
