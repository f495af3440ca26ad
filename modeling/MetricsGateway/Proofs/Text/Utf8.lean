import MetricsGateway.Text.Utf8

/-!
Texts and their bytes. Main statement: bytes are read as a text exactly when they are the bytes of the
text.
-/

namespace MetricsGateway.Text

variable {b low high : UInt8} {bytes rest : Bytes} {c : Char} {cs more : List Char} {count value n : Nat}

@[simp] theorem utf8_nil : utf8 [] = [] := rfl

@[simp] theorem utf8_cons : utf8 (c :: cs) = String.utf8EncodeChar c ++ utf8 cs := List.flatMap_cons

@[simp] theorem utf8_append : utf8 (cs ++ more) = utf8 cs ++ utf8 more := List.flatMap_append

/-! ## Characters -/

theorem utf8EncodeChar_of_ascii (h : c.toNat < 0x80) :
    String.utf8EncodeChar c = [UInt8.ofNat c.toNat] := by
  have hle : c.val.toNat ≤ 0x7F := Nat.le_of_lt_succ h
  simp only [String.utf8EncodeChar, hle, if_true]
  rfl

/-- Outside ASCII all bytes are large. -/
theorem le_of_mem_utf8EncodeChar (h : 0x80 ≤ c.toNat) (hb : b ∈ String.utf8EncodeChar c) :
    0x80 ≤ b.toNat := by
  have hgt : ¬ c.val.toNat ≤ 0x7F := Nat.not_le.mpr h
  simp only [String.utf8EncodeChar, hgt, if_false] at hb
  split at hb
  · simp only [List.mem_cons, List.not_mem_nil, or_false] at hb
    obtain rfl | rfl := hb <;> simp only [UInt8.toNat_ofNat'] <;> omega
  · split at hb
    · simp only [List.mem_cons, List.not_mem_nil, or_false] at hb
      obtain rfl | rfl | rfl := hb <;> simp only [UInt8.toNat_ofNat'] <;> omega
    · simp only [List.mem_cons, List.not_mem_nil, or_false] at hb
      obtain rfl | rfl | rfl | rfl := hb <;> simp only [UInt8.toNat_ofNat'] <;> omega

theorem utf8Tail_succ : utf8Tail value (count + 1) low high bytes = .ok (n, rest) ↔
    ∃ b more, bytes = b :: more ∧ low.toNat ≤ b.toNat ∧ b.toNat ≤ high.toNat ∧
      utf8Tail (value * 64 + (b.toNat - 0x80)) count 0x80 0xBF more = .ok (n, rest) := by
  cases bytes with
  | nil => simp [utf8Tail]
  | cons b more =>
    simp only [utf8Tail, Bool.and_eq_true, decide_eq_true_eq, UInt8.le_iff_toNat_le, List.cons.injEq]
    split
    · next h =>
      constructor
      · exact fun ht => ⟨b, more, ⟨rfl, rfl⟩, h.1, h.2, ht⟩
      · rintro ⟨_, _, ⟨rfl, rfl⟩, -, -, ht⟩
        exact ht
    · next h =>
      refine ⟨nofun, ?_⟩
      rintro ⟨_, _, ⟨rfl, rfl⟩, hlow, hhigh, -⟩
      exact absurd ⟨hlow, hhigh⟩ h

/-- The first bytes, and the bounds for the next byte: longer writings of small code points, surrogates
and what lies above all characters are excluded by them. -/
theorem bounds_of_utf8Lead (h : utf8Lead b = some (count, low, high)) :
    0x80 ≤ low.toNat ∧ high.toNat ≤ 0xBF ∧
      (count = 1 ∧ 0xC2 ≤ b.toNat ∧ b.toNat ≤ 0xDF ∨
        count = 2 ∧ 0xE0 ≤ b.toNat ∧ b.toNat ≤ 0xEF ∧ (b.toNat = 0xE0 → low.toNat = 0xA0) ∧
          (b.toNat = 0xED → high.toNat = 0x9F) ∨
        count = 3 ∧ 0xF0 ≤ b.toNat ∧ b.toNat ≤ 0xF4 ∧ (b.toNat = 0xF0 → low.toNat = 0x90) ∧
          (b.toNat = 0xF4 → high.toNat = 0x8F)) := by
  have hsome {k : Nat} {x y : UInt8} (hk : some (k, x, y) = some (count, low, high)) :
      k = count ∧ x = low ∧ y = high := by simpa using hk
  simp only [utf8Lead, Bool.and_eq_true, decide_eq_true_eq, UInt8.le_iff_toNat_le,
    ← UInt8.toNat_inj, UInt8.reduceToNat] at h
  split at h
  · next hb =>
    obtain ⟨rfl, rfl, rfl⟩ := hsome h
    exact ⟨by decide, by decide, .inl ⟨rfl, hb⟩⟩
  split at h
  · next hb =>
    obtain ⟨rfl, rfl, rfl⟩ := hsome h
    exact ⟨by decide, by decide, .inr (.inl ⟨rfl, by omega, by omega, fun _ => rfl, by omega⟩)⟩
  split at h
  · next hb =>
    obtain ⟨rfl, rfl, rfl⟩ := hsome h
    exact ⟨by decide, by decide, .inr (.inl ⟨rfl, by omega, by omega, by omega, fun _ => rfl⟩)⟩
  split at h
  · next hb =>
    obtain ⟨rfl, rfl, rfl⟩ := hsome h
    exact ⟨by decide, by decide, .inr (.inl ⟨rfl, by omega, by omega, by omega, by omega⟩)⟩
  split at h
  · next hb =>
    obtain ⟨rfl, rfl, rfl⟩ := hsome h
    exact ⟨by decide, by decide, .inr (.inr ⟨rfl, by omega, by omega, fun _ => rfl, by omega⟩)⟩
  split at h
  · next hb =>
    obtain ⟨rfl, rfl, rfl⟩ := hsome h
    exact ⟨by decide, by decide, .inr (.inr ⟨rfl, by omega, by omega, by omega, by omega⟩)⟩
  split at h
  · next hb =>
    obtain ⟨rfl, rfl, rfl⟩ := hsome h
    exact ⟨by decide, by decide, .inr (.inr ⟨rfl, by omega, by omega, by omega, fun _ => rfl⟩)⟩
  · cases h

theorem val_ofNat (h : n.isValidChar) : (Char.ofNat n).val.toNat = n := by
  rw [Char.ofNat, dif_pos h]
  rfl

theorem utf8EncodeChar_two (h : 0x80 ≤ n) (h' : n ≤ 0x7FF) : String.utf8EncodeChar (Char.ofNat n) =
    [UInt8.ofNat (n / 64 % 32 + 192), UInt8.ofNat (n % 64 + 128)] := by
  have hn : n.isValidChar := .inl (by omega)
  have hgt : ¬ n ≤ 0x7F := by omega
  simp only [String.utf8EncodeChar, val_ofNat hn, hgt, h', if_false, if_true]

theorem utf8EncodeChar_three (h : 0x800 ≤ n) (h' : n ≤ 0xFFFF) (hn : n.isValidChar) :
    String.utf8EncodeChar (Char.ofNat n) = [UInt8.ofNat (n / 4096 % 16 + 224),
      UInt8.ofNat (n / 64 % 64 + 128), UInt8.ofNat (n % 64 + 128)] := by
  have hgt : ¬ n ≤ 0x7F := by omega
  have hgt' : ¬ n ≤ 0x7FF := by omega
  simp only [String.utf8EncodeChar, val_ofNat hn, hgt, hgt', h', if_false, if_true]

theorem utf8EncodeChar_four (h : 0x10000 ≤ n) (h' : n ≤ 0x10FFFF) :
    String.utf8EncodeChar (Char.ofNat n) = [UInt8.ofNat (n / 262144 % 8 + 240),
      UInt8.ofNat (n / 4096 % 64 + 128), UInt8.ofNat (n / 64 % 64 + 128), UInt8.ofNat (n % 64 + 128)] := by
  have hn : n.isValidChar := .inr ⟨by omega, by omega⟩
  have hgt : ¬ n ≤ 0x7F := by omega
  have hgt' : ¬ n ≤ 0x7FF := by omega
  have hgt'' : ¬ n ≤ 0xFFFF := by omega
  simp only [String.utf8EncodeChar, val_ofNat hn, hgt, hgt', hgt'', if_false]

theorem ofNat_eq_of_toNat (h : n = b.toNat) : UInt8.ofNat n = b := by
  rw [h, UInt8.ofNat_toNat]

/-- A first byte and the bytes that belong to it are those of the character that they write. -/
theorem utf8EncodeChar_of_tail (hlead : utf8Lead b = some (count, low, high))
    (htail : utf8Tail (utf8LeadValue b count) count low high bytes = .ok (n, rest)) :
    b :: bytes = String.utf8EncodeChar (Char.ofNat n) ++ rest := by
  obtain ⟨hlow, hhigh, hb⟩ := bounds_of_utf8Lead hlead
  obtain ⟨rfl, hb⟩ | ⟨rfl, hb⟩ | ⟨rfl, hb⟩ := hb
  · obtain ⟨x, bytes, rfl, hx, hx', htail⟩ := utf8Tail_succ.mp htail
    obtain ⟨rfl, rfl⟩ := Prod.mk.inj (Except.ok.inj htail)
    have hvalue : utf8LeadValue b 1 = b.toNat % 32 := rfl
    rw [hvalue, utf8EncodeChar_two (by omega) (by omega), ofNat_eq_of_toNat (b := b) (by omega),
      ofNat_eq_of_toNat (b := x) (by omega)]
    rfl
  · obtain ⟨x, bytes, rfl, hx, hx', htail⟩ := utf8Tail_succ.mp htail
    obtain ⟨y, bytes, rfl, hy, hy', htail⟩ := utf8Tail_succ.mp htail
    obtain ⟨rfl, rfl⟩ := Prod.mk.inj (Except.ok.inj htail)
    have hvalue : utf8LeadValue b 2 = b.toNat % 16 := rfl
    have hrange : (0x80 : UInt8).toNat = 0x80 ∧ (0xBF : UInt8).toNat = 0xBF := ⟨rfl, rfl⟩
    rw [hrange.1] at hy
    rw [hrange.2] at hy'
    rw [hvalue, utf8EncodeChar_three (by omega) (by omega) (by unfold Nat.isValidChar; omega),
      ofNat_eq_of_toNat (b := b) (by omega), ofNat_eq_of_toNat (b := x) (by omega),
      ofNat_eq_of_toNat (b := y) (by omega)]
    rfl
  · obtain ⟨x, bytes, rfl, hx, hx', htail⟩ := utf8Tail_succ.mp htail
    obtain ⟨y, bytes, rfl, hy, hy', htail⟩ := utf8Tail_succ.mp htail
    obtain ⟨z, bytes, rfl, hz, hz', htail⟩ := utf8Tail_succ.mp htail
    obtain ⟨rfl, rfl⟩ := Prod.mk.inj (Except.ok.inj htail)
    have hvalue : utf8LeadValue b 3 = b.toNat % 8 := rfl
    have hrange : (0x80 : UInt8).toNat = 0x80 ∧ (0xBF : UInt8).toNat = 0xBF := ⟨rfl, rfl⟩
    rw [hrange.1] at hy hz
    rw [hrange.2] at hy' hz'
    rw [hvalue, utf8EncodeChar_four (by omega) (by omega),
      ofNat_eq_of_toNat (b := b) (by omega), ofNat_eq_of_toNat (b := x) (by omega),
      ofNat_eq_of_toNat (b := y) (by omega), ofNat_eq_of_toNat (b := z) (by omega)]
    rfl

/-! ## Texts -/

/-- What has been read stays read. -/
theorem mem_decodeUtf8 {fuel : Nat} {read : List (Option Char)} {c : Option Char} (h : c ∈ read) :
    c ∈ decodeUtf8 fuel read bytes := by
  induction fuel generalizing read bytes with
  | zero => exact List.mem_reverse.mpr h
  | succ fuel ih =>
    have hnext (d : Option Char) (rest : Bytes) : c ∈ decodeUtf8 fuel (d :: read) rest :=
      ih (List.mem_cons_of_mem d h)
    cases bytes with
    | nil => exact List.mem_reverse.mpr h
    | cons b rest =>
      rw [decodeUtf8]
      split
      · exact hnext _ _
      · split
        · exact hnext _ _
        · split <;> exact hnext _ _

theorem decodeUtf8_ne_of_none {fuel : Nat} {read : List (Option Char)} :
    decodeUtf8 fuel (none :: read) bytes ≠ cs.map some := by
  intro h
  have hnone : none ∈ cs.map some := h ▸ mem_decodeUtf8 List.mem_cons_self
  simp at hnone

theorem utf8_of_decodeUtf8 {fuel : Nat} {read : List Char} (hfuel : bytes.length ≤ fuel)
    (h : decodeUtf8 fuel (read.map some) bytes = cs.map some) :
    ∃ more, cs = read.reverse ++ more ∧ utf8 more = bytes := by
  have hend {read : List Char} (hread : (read.map some).reverse = cs.map some) :
      ∃ more, cs = read.reverse ++ more ∧ utf8 more = [] := by
    rw [← List.map_reverse, List.map_inj_right fun _ _ => Option.some.inj] at hread
    exact ⟨[], by rw [hread, List.append_nil], rfl⟩
  induction fuel generalizing read bytes with
  | zero =>
    obtain rfl := List.eq_nil_of_length_eq_zero (Nat.le_zero.mp hfuel)
    exact hend h
  | succ fuel ih =>
    -- one more character, and what is read from there on
    have hnext {d : Char} {rest : Bytes} (hbytes : bytes = String.utf8EncodeChar d ++ rest)
        (hrest : decodeUtf8 fuel (some d :: read.map some) rest = cs.map some) :
        ∃ more, cs = read.reverse ++ more ∧ utf8 more = bytes := by
      have hpos : 0 < (String.utf8EncodeChar d).length := by
        rw [String.length_utf8EncodeChar]
        exact Char.utf8Size_pos d
      have hlen : rest.length ≤ fuel := by
        rw [hbytes, List.length_append] at hfuel
        omega
      have hread : decodeUtf8 fuel ((d :: read).map some) rest = cs.map some := hrest
      obtain ⟨more, rfl, rfl⟩ := ih hlen hread
      exact ⟨d :: more, by simp, hbytes.symm⟩
    cases bytes with
    | nil => exact hend h
    | cons b rest =>
      rw [decodeUtf8] at h
      split at h
      · next hb =>
        have hlt : b.toNat < 0x80 := UInt8.lt_iff_toNat_lt.mp hb
        have hval : (Char.ofNat b.toNat).toNat = b.toNat := val_ofNat (.inl (by omega))
        refine hnext ?_ h
        rw [utf8EncodeChar_of_ascii (by omega), hval, UInt8.ofNat_toNat]
        rfl
      · split at h
        · exact absurd h decodeUtf8_ne_of_none
        · next hlead =>
          split at h
          · next htail => exact hnext (utf8EncodeChar_of_tail hlead htail) h
          · exact absurd h decodeUtf8_ne_of_none

theorem eq_map_of_mapM {read : List (Option Char)} (h : read.mapM id = some cs) :
    read = cs.map some := by
  induction read generalizing cs with
  | nil =>
    obtain rfl := Option.some.inj h
    rfl
  | cons c read ih =>
    rw [List.mapM_cons] at h
    obtain ⟨d, rfl, hrest⟩ := Option.bind_eq_some_iff.mp h
    obtain ⟨ds, hds, hcs⟩ := Option.bind_eq_some_iff.mp hrest
    obtain rfl := Option.some.inj hcs
    rw [ih hds, List.map_cons]

/-- Bytes that are read as a text are the bytes of the text. -/
theorem utf8_of_ofUtf8? (h : ofUtf8? bytes = some cs) : utf8 cs = bytes := by
  have hread : decodeUtf8 bytes.length (([] : List Char).map some) bytes = cs.map some :=
    eq_map_of_mapM h
  obtain ⟨more, rfl, hmore⟩ := utf8_of_decodeUtf8 (Nat.le_refl _) hread
  exact hmore

/-! ## Reading what was written -/

theorem toNat_ofNat_of_lt (h : n < 256) : (UInt8.ofNat n).toNat = n := by
  rw [UInt8.toNat_ofNat']
  exact Nat.mod_eq_of_lt h

/-- A first byte with its bounds, and further bytes of which the next one lies within them, are read. -/
theorem decodeUtf8_lead {fuel : Nat} {read : List (Option Char)} (hb : 0x80 ≤ b.toNat)
    (hlead : utf8Lead b = some (count, low, high))
    (htail : utf8Tail (utf8LeadValue b count) count low high bytes = .ok (n, rest)) :
    decodeUtf8 (fuel + 1) read (b :: bytes) = decodeUtf8 fuel (some (Char.ofNat n) :: read) rest := by
  have hge : ¬ b < 0x80 := by
    rw [UInt8.lt_iff_toNat_lt]
    exact Nat.not_lt.mpr hb
  simp only [decodeUtf8, hge, if_false, hlead, htail]

theorem utf8Lead_two (h : 0xC2 ≤ b.toNat) (h' : b.toNat ≤ 0xDF) :
    utf8Lead b = some (1, 0x80, 0xBF) := by
  simp only [utf8Lead, Bool.and_eq_true, decide_eq_true_eq, UInt8.le_iff_toNat_le, UInt8.reduceToNat,
    h, h', and_self, if_true]

theorem utf8Lead_three (h : 0xE0 ≤ b.toNat) (h' : b.toNat ≤ 0xEF) :
    ∃ low high, utf8Lead b = some (2, low, high) ∧
      (low.toNat = if b.toNat = 0xE0 then 0xA0 else 0x80) ∧
      (high.toNat = if b.toNat = 0xED then 0x9F else 0xBF) := by
  simp only [utf8Lead, Bool.and_eq_true, decide_eq_true_eq, UInt8.le_iff_toNat_le, UInt8.reduceToNat,
    ← UInt8.toNat_inj]
  rw [if_neg (by omega)]
  by_cases hfirst : b.toNat = 0xE0
  · rw [if_pos hfirst]
    exact ⟨_, _, rfl, by simp [hfirst], by simp [hfirst]⟩
  rw [if_neg hfirst]
  by_cases hsurrogate : b.toNat = 0xED
  · rw [if_pos hsurrogate]
    exact ⟨_, _, rfl, by simp [hsurrogate], by simp [hsurrogate]⟩
  rw [if_neg hsurrogate, if_pos (by omega)]
  exact ⟨_, _, rfl, by simp [hfirst], by simp [hsurrogate]⟩

theorem utf8Lead_four (h : 0xF0 ≤ b.toNat) (h' : b.toNat ≤ 0xF4) :
    ∃ low high, utf8Lead b = some (3, low, high) ∧
      (low.toNat = if b.toNat = 0xF0 then 0x90 else 0x80) ∧
      (high.toNat = if b.toNat = 0xF4 then 0x8F else 0xBF) := by
  simp only [utf8Lead, Bool.and_eq_true, decide_eq_true_eq, UInt8.le_iff_toNat_le, UInt8.reduceToNat,
    ← UInt8.toNat_inj]
  rw [if_neg (by omega), if_neg (by omega), if_neg (by omega), if_neg (by omega)]
  by_cases hfirst : b.toNat = 0xF0
  · rw [if_pos hfirst]
    exact ⟨_, _, rfl, by simp [hfirst], by simp [hfirst]⟩
  rw [if_neg hfirst]
  by_cases hlast : b.toNat = 0xF4
  · rw [if_neg (by omega), if_pos hlast]
    exact ⟨_, _, rfl, by simp [hlast], by simp [hlast]⟩
  rw [if_pos (by omega)]
  exact ⟨_, _, rfl, by simp [hfirst], by simp [hlast]⟩

/-- A further byte within the bounds adds its six bits. -/
theorem utf8Tail_cons (h : n < 64) (hlow : low.toNat ≤ n + 128) (hhigh : n + 128 ≤ high.toNat) :
    utf8Tail value (count + 1) low high (UInt8.ofNat (n + 128) :: rest) =
      utf8Tail (value * 64 + n) count 0x80 0xBF rest := by
  have hb : (UInt8.ofNat (n + 128)).toNat = n + 128 := toNat_ofNat_of_lt (by omega)
  have hwithin : low ≤ UInt8.ofNat (n + 128) ∧ UInt8.ofNat (n + 128) ≤ high := by
    rw [UInt8.le_iff_toNat_le, UInt8.le_iff_toNat_le, hb]
    exact ⟨hlow, hhigh⟩
  rw [utf8Tail, if_pos (by simpa using hwithin), hb, Nat.add_sub_cancel]

theorem utf8Tail_further : utf8Tail value (count + 1) 0x80 0xBF (UInt8.ofNat (n % 64 + 128) :: rest) =
    utf8Tail (value * 64 + n % 64) count 0x80 0xBF rest := by
  have hrange : (0x80 : UInt8).toNat = 0x80 ∧ (0xBF : UInt8).toNat = 0xBF := ⟨rfl, rfl⟩
  exact utf8Tail_cons (by omega) (by omega) (by omega)

section Character

variable {fuel : Nat} {read : List (Option Char)}

theorem decodeUtf8_two (h : 0x80 ≤ n) (h' : n ≤ 0x7FF) :
    decodeUtf8 (fuel + 1) read (String.utf8EncodeChar (Char.ofNat n) ++ rest) =
      decodeUtf8 fuel (some (Char.ofNat n) :: read) rest := by
  have hb : (UInt8.ofNat (n / 64 % 32 + 192)).toNat = n / 64 % 32 + 192 := toNat_ofNat_of_lt (by omega)
  have hvalue : utf8LeadValue (UInt8.ofNat (n / 64 % 32 + 192)) 1 =
    (UInt8.ofNat (n / 64 % 32 + 192)).toNat % 32 := rfl
  have hsum : (n / 64 % 32 + 192) % 32 * 64 + n % 64 = n := by omega
  simp only [utf8EncodeChar_two h h', List.cons_append, List.nil_append]
  refine decodeUtf8_lead (by omega) (utf8Lead_two (by omega) (by omega)) ?_
  rw [hvalue, hb, utf8Tail_further, hsum, utf8Tail]

theorem decodeUtf8_three (h : 0x800 ≤ n) (h' : n ≤ 0xFFFF) (hn : n.isValidChar) :
    decodeUtf8 (fuel + 1) read (String.utf8EncodeChar (Char.ofNat n) ++ rest) =
      decodeUtf8 fuel (some (Char.ofNat n) :: read) rest := by
  have hb : (UInt8.ofNat (n / 4096 % 16 + 224)).toNat = n / 4096 % 16 + 224 :=
    toNat_ofNat_of_lt (by omega)
  have hvalue : utf8LeadValue (UInt8.ofNat (n / 4096 % 16 + 224)) 2 =
    (UInt8.ofNat (n / 4096 % 16 + 224)).toNat % 16 := rfl
  have hsum : ((n / 4096 % 16 + 224) % 16 * 64 + n / 64 % 64) * 64 + n % 64 = n := by omega
  obtain ⟨low, high, hlead, hlow, hhigh⟩ :=
    utf8Lead_three (b := UInt8.ofNat (n / 4096 % 16 + 224)) (by omega) (by omega)
  simp only [utf8EncodeChar_three h h' hn, List.cons_append, List.nil_append]
  refine decodeUtf8_lead (by omega) hlead ?_
  have hfirst : low.toNat ≤ n / 64 % 64 + 128 := by
    split at hlow <;> omega
  have hlast : n / 64 % 64 + 128 ≤ high.toNat := by
    unfold Nat.isValidChar at hn
    split at hhigh <;> omega
  rw [hvalue, hb, utf8Tail_cons (by omega) hfirst hlast, utf8Tail_further, hsum, utf8Tail]

theorem decodeUtf8_four (h : 0x10000 ≤ n) (h' : n ≤ 0x10FFFF) :
    decodeUtf8 (fuel + 1) read (String.utf8EncodeChar (Char.ofNat n) ++ rest) =
      decodeUtf8 fuel (some (Char.ofNat n) :: read) rest := by
  have hb : (UInt8.ofNat (n / 262144 % 8 + 240)).toNat = n / 262144 % 8 + 240 :=
    toNat_ofNat_of_lt (by omega)
  have hvalue : utf8LeadValue (UInt8.ofNat (n / 262144 % 8 + 240)) 3 =
    (UInt8.ofNat (n / 262144 % 8 + 240)).toNat % 8 := rfl
  have hsum : (((n / 262144 % 8 + 240) % 8 * 64 + n / 4096 % 64) * 64 + n / 64 % 64) * 64 + n % 64 = n := by
    omega
  obtain ⟨low, high, hlead, hlow, hhigh⟩ :=
    utf8Lead_four (b := UInt8.ofNat (n / 262144 % 8 + 240)) (by omega) (by omega)
  simp only [utf8EncodeChar_four h h', List.cons_append, List.nil_append]
  refine decodeUtf8_lead (by omega) hlead ?_
  have hfirst : low.toNat ≤ n / 4096 % 64 + 128 := by
    split at hlow <;> omega
  have hlast : n / 4096 % 64 + 128 ≤ high.toNat := by
    split at hhigh <;> omega
  rw [hvalue, hb, utf8Tail_cons (by omega) hfirst hlast, utf8Tail_further, utf8Tail_further, hsum, utf8Tail]

/-- A character is read from the bytes that it is written as. -/
theorem decodeUtf8_utf8EncodeChar : decodeUtf8 (fuel + 1) read (String.utf8EncodeChar c ++ rest) =
    decodeUtf8 fuel (some c :: read) rest := by
  have hof : Char.ofNat c.toNat = c := Char.ofNat_toNat c
  have hvalid : c.toNat.isValidChar := c.valid
  have hle : c.toNat ≤ 0x10FFFF := by
    unfold Nat.isValidChar at hvalid
    omega
  obtain hone | hone := Nat.lt_or_ge c.toNat 0x80
  · have hb : (UInt8.ofNat c.toNat).toNat = c.toNat := toNat_ofNat_of_lt (by omega)
    have hlt : UInt8.ofNat c.toNat < 0x80 := by
      rw [UInt8.lt_iff_toNat_lt, hb]
      exact hone
    simp only [utf8EncodeChar_of_ascii hone, List.cons_append, List.nil_append, decodeUtf8, hlt, if_true,
      hb, hof]
  · rw [← hof]
    obtain htwo | htwo := Nat.lt_or_ge 0x7FF c.toNat
    · obtain hthree | hthree := Nat.lt_or_ge 0xFFFF c.toNat
      · exact decodeUtf8_four hthree hle
      · exact decodeUtf8_three htwo hthree hvalid
    · exact decodeUtf8_two hone htwo

end Character

theorem decodeUtf8_utf8 {fuel : Nat} {read : List (Option Char)} (h : cs.length ≤ fuel) :
    decodeUtf8 fuel read (utf8 cs) = read.reverse ++ cs.map some := by
  induction cs generalizing fuel read with
  | nil => cases fuel <;> simp [decodeUtf8]
  | cons c cs ih =>
    obtain ⟨fuel, rfl⟩ : ∃ less, fuel = less + 1 := ⟨fuel - 1, by simp at h; omega⟩
    rw [utf8_cons, decodeUtf8_utf8EncodeChar, ih (Nat.le_of_succ_le_succ h)]
    simp

theorem length_le_length_utf8 : cs.length ≤ (utf8 cs).length := by
  induction cs with
  | nil => exact Nat.le_refl 0
  | cons c cs ih =>
    have hpos := Char.utf8Size_pos c
    rw [utf8_cons, List.length_append, String.length_utf8EncodeChar, List.length_cons]
    omega

theorem mapM_id_map_some : (cs.map some).mapM id = some cs := by
  induction cs with
  | nil => rfl
  | cons c cs ih =>
    rw [List.map_cons, List.mapM_cons, ih]
    rfl

/-- Bytes are read as a text exactly when they are those of the text. -/
theorem ofUtf8?_eq_some_iff : ofUtf8? bytes = some cs ↔ utf8 cs = bytes := by
  constructor
  · exact utf8_of_ofUtf8?
  · rintro rfl
    rw [ofUtf8?, decodeUtf8_utf8 length_le_length_utf8]
    exact mapM_id_map_some

end MetricsGateway.Text
