import MetricsGateway.Url.Path

/-!
Segments of paths: cutting a path into segments and putting them together again, and the segments that
stay as they are when a path is read.
-/

namespace MetricsGateway

namespace Percent

variable {encoded : Char → Bool} {cs : List Char} {c : Char}

theorem encode_of_plain (h : ∀ c ∈ cs, encoded c = false) : encode encoded cs = cs := by
  induction cs with
  | nil => rfl
  | cons c cs ih =>
    have hc := h c List.mem_cons_self
    have hcs := ih fun d hd => h d (List.mem_cons_of_mem c hd)
    rw [encode, List.flatMap_cons, hc]
    exact congrArg (c :: ·) hcs

/-- What stands in an encoded text: characters that need no encoding, percent signs and digits. -/
theorem mem_encode (h : c ∈ encode encoded cs) :
    c ∈ cs ∧ encoded c = false ∨ c = '%' ∨ ∃ n < 16, c = hexUpper n := by
  obtain ⟨d, hd, hc⟩ := List.mem_flatMap.mp h
  split at hc
  · obtain ⟨b, -, hb⟩ := List.mem_flatMap.mp hc
    have hlt := b.toNat_lt
    simp only [encodeByte, List.mem_cons, List.not_mem_nil, or_false] at hb
    obtain rfl | rfl | rfl := hb
    · exact .inr (.inl rfl)
    · exact .inr (.inr ⟨b.toNat / 16, by omega, rfl⟩)
    · exact .inr (.inr ⟨b.toNat % 16, by omega, rfl⟩)
  · next hplain =>
    obtain rfl := List.mem_singleton.mp hc
    exact .inl ⟨hd, Bool.eq_false_iff.mpr hplain⟩

/-- What holds of percent signs, digits and all characters of the text that need no encoding holds of
the encoded text. -/
theorem forall_mem_encode {p : Char → Prop} (hpercent : p '%') (hdigit : ∀ n < 16, p (hexUpper n))
    (hplain : ∀ c ∈ cs, encoded c = false → p c) : ∀ c ∈ encode encoded cs, p c := by
  intro c hc
  obtain ⟨hmem, henc⟩ | rfl | ⟨n, hn, rfl⟩ := mem_encode hc
  · exact hplain c hmem henc
  · exact hpercent
  · exact hdigit n hn

end Percent

namespace Text

variable {sep c : Char} {cs part rest : List Char}

theorem splitOnChar_ne_nil : splitOnChar sep cs ≠ [] := by
  cases cs with
  | nil => exact List.cons_ne_nil _ _
  | cons c cs =>
    rw [splitOnChar]
    split
    · exact List.cons_ne_nil _ _
    · split <;> exact List.cons_ne_nil _ _

theorem splitOnChar_cons_self : splitOnChar sep (sep :: cs) = [] :: splitOnChar sep cs := by
  rw [splitOnChar]
  split
  · next h => exact absurd h splitOnChar_ne_nil
  · next part parts h => rw [if_pos rfl, h]

/-- A text without separators goes to the first part. -/
theorem splitOnChar_append (h : sep ∉ part) {first : List Char} {parts : List (List Char)}
    (hrest : splitOnChar sep rest = first :: parts) :
    splitOnChar sep (part ++ rest) = (part ++ first) :: parts := by
  induction part with
  | nil => exact hrest
  | cons c part ih =>
    have hc : c ≠ sep := fun he => h (he ▸ List.mem_cons_self)
    have hpart := ih fun hm => h (List.mem_cons_of_mem c hm)
    rw [List.cons_append, splitOnChar, hpart]
    simp only
    rw [if_neg hc, List.cons_append]

theorem of_mem_splitOnChar (h : part ∈ splitOnChar sep cs) (hc : c ∈ part) : c ∈ cs ∧ c ≠ sep := by
  induction cs generalizing part with
  | nil =>
    obtain rfl := List.mem_singleton.mp h
    cases hc
  | cons d cs ih =>
    rw [splitOnChar] at h
    split at h
    · next hnil => exact absurd hnil splitOnChar_ne_nil
    · next first parts heq =>
      rw [heq] at ih
      split at h
      · obtain rfl | h := List.mem_cons.mp h
        · cases hc
        · exact (ih h hc).imp_left (List.mem_cons_of_mem d)
      · next hd =>
        obtain rfl | h := List.mem_cons.mp h
        · obtain rfl | hc := List.mem_cons.mp hc
          · exact ⟨List.mem_cons_self, hd⟩
          · exact (ih List.mem_cons_self hc).imp_left (List.mem_cons_of_mem d)
        · exact (ih (List.mem_cons_of_mem _ h) hc).imp_left (List.mem_cons_of_mem d)

end Text

namespace Url

variable {segment raw : List Char} {segments above raws : List (List Char)} {path cs : List Char} {c : Char}

/-- A segment that stays as it is when a path is read. -/
structure Settled (segment : List Char) : Prop where
  plain : ∀ c ∈ segment, Percent.inPath c = false ∧ c ≠ '/' ∧ c ≠ '\\'
  single : isSingleDot segment = false
  double : isDoubleDot segment = false

theorem settled_nil : Settled [] := ⟨nofun, rfl, rfl⟩

theorem Settled.encode (h : Settled segment) : Percent.encode Percent.inPath segment = segment :=
  Percent.encode_of_plain fun c hc => (h.plain c hc).1

/-- An encoded segment without slashes is settled unless it is one of the dots. -/
theorem settled_encode (h : ∀ c ∈ raw, c ≠ '/' ∧ c ≠ '\\')
    (hd : isDoubleDot (Percent.encode Percent.inPath raw) = false)
    (hs : isSingleDot (Percent.encode Percent.inPath raw) = false) :
    Settled (Percent.encode Percent.inPath raw) := by
  refine ⟨?_, hs, hd⟩
  refine Percent.forall_mem_encode (by decide) (by decide) fun c hc hplain => ⟨hplain, h c hc⟩

/-- What reading a segment does to those read before: it goes up, stays, or is added. -/
def enter (above : List (List Char)) (raw : List Char) : List (List Char) :=
  let segment := Percent.encode Percent.inPath raw
  if isDoubleDot segment then leave above
  else if isSingleDot segment then above
  else segment :: above

theorem resolve_cons (h : raws ≠ []) : resolve above (raw :: raws) = resolve (enter above raw) raws := by
  cases raws with
  | nil => exact absurd rfl h
  | cons next rest =>
    rw [resolve.eq_3 _ _ _ h, enter]
    split
    · rfl
    · split <;> rfl

theorem Settled.enter (h : Settled segment) : Url.enter above segment = segment :: above := by
  simp [Url.enter, h.encode, h.double, h.single]

theorem resolve_settled (hs : ∀ s ∈ segments, Settled s) (h : raws ≠ []) :
    resolve above (segments ++ raws) = resolve (segments.reverse ++ above) raws := by
  induction segments generalizing above with
  | nil => rfl
  | cons segment segments ih =>
    have hne : segments ++ raws ≠ [] := by simp [h]
    rw [List.cons_append, resolve_cons hne, (hs segment List.mem_cons_self).enter,
      ih fun s hm => hs s (List.mem_cons_of_mem _ hm)]
    simp

theorem mem_leave (h : segment ∈ leave above) : segment ∈ above := by
  cases above with
  | nil => cases h
  | cons top above =>
    rw [leave] at h
    split at h
    · exact h
    · exact List.mem_cons_of_mem top h

theorem settled_of_enter (hs : ∀ s ∈ above, Settled s) (h : ∀ c ∈ raw, c ≠ '/' ∧ c ≠ '\\') :
    ∀ s ∈ Url.enter above raw, Settled s := by
  intro s hm
  rw [Url.enter] at hm
  split at hm
  · exact hs s (mem_leave hm)
  · next hd =>
    split at hm
    · exact hs s hm
    · next hsd =>
      obtain rfl | hm := List.mem_cons.mp hm
      · exact settled_encode h (Bool.eq_false_iff.mpr hd) (Bool.eq_false_iff.mpr hsd)
      · exact hs s hm

/-- The last segment of a path: after dots comes an empty one. -/
theorem resolve_singleton : resolve above [raw] =
    if isDoubleDot (Percent.encode Percent.inPath raw) ||
        isSingleDot (Percent.encode Percent.inPath raw) then ([] :: enter above raw).reverse
    else (enter above raw).reverse := by
  rw [resolve, enter]
  by_cases hd : isDoubleDot (Percent.encode Percent.inPath raw)
  · simp [hd]
  · by_cases hs : isSingleDot (Percent.encode Percent.inPath raw)
    · simp [hd, hs]
    · simp [hd, hs]

theorem settled_of_resolve (hs : ∀ s ∈ above, Settled s)
    (h : ∀ raw ∈ raws, ∀ c ∈ raw, c ≠ '/' ∧ c ≠ '\\') : ∀ s ∈ resolve above raws, Settled s := by
  induction raws generalizing above with
  | nil => simpa [resolve] using hs
  | cons raw raws ih =>
    have hraw := settled_of_enter hs (h raw List.mem_cons_self)
    by_cases hnil : raws = []
    · subst hnil
      rw [resolve_singleton]
      intro s hm
      split at hm
      · obtain rfl | hm := List.mem_cons.mp (List.mem_reverse.mp hm)
        · exact settled_nil
        · exact hraw s hm
      · exact hraw s (List.mem_reverse.mp hm)
    · rw [resolve_cons hnil]
      exact ih hraw fun r hr => h r (List.mem_cons_of_mem raw hr)

theorem resolve_ne_nil (h : raws ≠ []) : resolve above raws ≠ [] := by
  induction raws generalizing above with
  | nil => exact absurd rfl h
  | cons raw raws ih =>
    by_cases hnil : raws = []
    · subst hnil
      rw [resolve_singleton]
      split
      · simp
      · next hdots =>
        simp only [Bool.or_eq_true, not_or, Bool.not_eq_true] at hdots
        simp [Url.enter, hdots]
    · rw [resolve_cons hnil]
      exact ih hnil

/-- What is left of a path when it is cut into segments. -/
def turned (path : List Char) : List Char := (path.filter (!isSkipped ·)).map slashed

/-- The segments of a path before dots are resolved. -/
def rawSegments (path : List Char) : List (List Char) := Text.splitOnChar '/' (turned path)

theorem segmentsOf_of_turned (h : turned path = '/' :: cs) :
    segmentsOf path = resolve [] (Text.splitOnChar '/' cs) := by
  rw [segmentsOf]
  rw [turned] at h
  rw [h]
  rfl

theorem rawSegments_ne_nil : rawSegments path ≠ [] := Text.splitOnChar_ne_nil

theorem ne_backslash_of_turned (h : c ∈ turned path) : c ≠ '\\' := by
  obtain ⟨d, -, rfl⟩ := List.mem_map.mp h
  unfold slashed
  split
  · decide
  · assumption

/-- A path is read from raw segments without slashes and backslashes. -/
theorem exists_segmentsOf (path : List Char) : ∃ raws ≠ [],
    (∀ raw ∈ raws, ∀ c ∈ raw, c ≠ '/' ∧ c ≠ '\\') ∧ segmentsOf path = resolve [] raws := by
  have hcut (cs : List Char) (h : ∀ c ∈ cs, c ≠ '\\') :
      ∀ raw ∈ Text.splitOnChar '/' cs, ∀ c ∈ raw, c ≠ '/' ∧ c ≠ '\\' := by
    intro raw hraw c hc
    obtain ⟨hmem, hne⟩ := Text.of_mem_splitOnChar hraw hc
    exact ⟨hne, h c hmem⟩
  have hback : ∀ c ∈ turned path, c ≠ '\\' := fun c hc => ne_backslash_of_turned hc
  by_cases hroot : ∃ cs, turned path = '/' :: cs
  · obtain ⟨cs, hcs⟩ := hroot
    refine ⟨_, Text.splitOnChar_ne_nil, hcut cs fun c hc => ?_, segmentsOf_of_turned hcs⟩
    exact hback c (hcs ▸ List.mem_cons_of_mem '/' hc)
  · refine ⟨_, Text.splitOnChar_ne_nil, hcut (turned path) hback, ?_⟩
    rw [segmentsOf]
    split
    · next cs hcs => exact absurd ⟨cs, hcs⟩ hroot
    · rfl

theorem settled_segmentsOf : ∀ s ∈ segmentsOf path, Settled s := by
  obtain ⟨raws, -, hraws, hread⟩ := exists_segmentsOf path
  rw [hread]
  exact settled_of_resolve nofun hraws

theorem segmentsOf_ne_nil : segmentsOf path ≠ [] := by
  obtain ⟨raws, hne, -, hread⟩ := exists_segmentsOf path
  rw [hread]
  exact resolve_ne_nil hne

end Url

end MetricsGateway
