import Mathlib.Data.List.Basic
import MetricsGateway.Proofs.Text.Parts
import MetricsGateway.Url.Percent

/-!
Decoding of percent-encoded bytes. Main statements: decoding works on each part between separators, and takes
back an encoding that leaves percent signs and digits alone.
-/

namespace MetricsGateway.Percent

open Text

variable {b : UInt8} {bytes more rest : Bytes} {x y : Nat} {c : Char} {cs : List Char}
  {encoded : Char → Bool} {e : UInt8 → Bytes}

/-! ## Decoding byte by byte -/

/-- The byte that two digits at the beginning write, and what follows them. -/
def escaped? : Bytes → Option (UInt8 × Bytes)
  | a :: b :: rest =>
    match hexValue? a, hexValue? b with
    | some x, some y => some (UInt8.ofNat (x * 16 + y), rest)
    | _, _ => none
  | _ => none

theorem escaped?_eq_some_iff : escaped? bytes = some (b, rest) ↔ ∃ high low x y,
    bytes = high :: low :: rest ∧ hexValue? high = some x ∧ hexValue? low = some y ∧
      b = UInt8.ofNat (x * 16 + y) := by
  constructor
  · intro h
    unfold escaped? at h
    split at h
    · next high low rest =>
      split at h
      · next x y hx hy =>
        obtain ⟨rfl, rfl⟩ := Prod.mk.inj (Option.some.inj h)
        exact ⟨high, low, x, y, rfl, hx, hy, rfl⟩
      · cases h
    · cases h
  · rintro ⟨high, low, x, y, rfl, hx, hy, rfl⟩
    simp [escaped?, hx, hy]

theorem decode_cons_of_ne (h : b ≠ 0x25) : decode (b :: bytes) = b :: decode bytes := by
  rw [decode.eq_2]
  rintro _ _ _ rfl
  exact absurd rfl h

theorem decode_of_escaped? (h : escaped? bytes = some (b, rest)) :
    decode (0x25 :: bytes) = b :: decode rest := by
  obtain ⟨high, low, x, y, rfl, hx, hy, rfl⟩ := escaped?_eq_some_iff.mp h
  simp [decode, hx, hy]

theorem decode_of_not_escaped? (h : escaped? bytes = none) :
    decode (0x25 :: bytes) = 0x25 :: decode bytes := by
  match bytes, h with
  | [], _ => rfl
  | [_], _ => rfl
  | high :: low :: rest, h =>
    rw [decode.eq_1]
    split
    · next hx hy => simp [escaped?, hx, hy] at h
    · rfl

theorem decode_eq_nil_iff : decode bytes = [] ↔ bytes = [] := by
  cases bytes with
  | nil => exact iff_of_true rfl rfl
  | cons b bytes =>
    by_cases hb : b = 0x25
    · subst hb
      cases h : escaped? bytes with
      | none => simp [decode_of_not_escaped? h]
      | some out => simp [decode_of_escaped? h]
    · simp [decode_cons_of_ne hb]

theorem length_of_escaped? (h : escaped? bytes = some (b, rest)) : rest.length < bytes.length := by
  obtain ⟨_, _, _, _, rfl, -⟩ := escaped?_eq_some_iff.mp h
  simp only [List.length_cons]
  omega

/-! ## Decoding part by part -/

/-- Two digits do not go beyond what is not a digit. -/
theorem escaped?_append_cons (h : hexValue? b = none) :
    escaped? (bytes ++ b :: more) = (escaped? bytes).map fun (d, rest) => (d, rest ++ b :: more) := by
  match bytes with
  | [] => cases more <;> simp [escaped?, h]
  | [a] => simp [escaped?, h]
  | high :: low :: rest =>
    simp only [List.cons_append, escaped?]
    split <;> rfl

theorem decode_append_cons (hb : b ≠ 0x25) (hdigit : hexValue? b = none) :
    decode (bytes ++ b :: more) = decode bytes ++ b :: decode more := by
  induction hlen : bytes.length using Nat.strongRecOn generalizing bytes with
  | ind n ih =>
    cases bytes with
    | nil => exact decode_cons_of_ne hb
    | cons a bytes =>
      rw [List.length_cons] at hlen
      have hnext := ih bytes.length (by omega) rfl
      rw [List.cons_append]
      by_cases ha : a = 0x25
      · subst ha
        have hescaped : escaped? (bytes ++ b :: more) = (escaped? bytes).map _ :=
          escaped?_append_cons hdigit
        cases h : escaped? bytes with
        | none =>
          rw [h, Option.map_none] at hescaped
          rw [decode_of_not_escaped? h, decode_of_not_escaped? hescaped, hnext, List.cons_append]
        | some out =>
          obtain ⟨d, rest⟩ := out
          have hshort := length_of_escaped? h
          rw [h, Option.map_some] at hescaped
          rw [decode_of_escaped? h, decode_of_escaped? hescaped, ih rest.length (by omega) rfl,
            List.cons_append]
      · rw [decode_cons_of_ne ha, decode_cons_of_ne ha, hnext, List.cons_append]

theorem partwise_decode (hb : b ≠ 0x25) (hdigit : hexValue? b = none) : Partwise decode b b :=
  ⟨decode_eq_nil_iff, fun _ _ => decode_append_cons hb hdigit⟩

/-! ## Decoding what was encoded -/

/-- A set of characters to encode that decoding takes back: all those outside ASCII, but neither the
percent sign nor a digit. -/
structure Reversible (encoded : Char → Bool) : Prop where
  outside : ∀ c, 0x80 ≤ c.toNat → encoded c = true
  percent : encoded '%' = false
  digit : ∀ b, (hexValue? b).isSome → encoded (Char.ofNat b.toNat) = false

theorem reversible_of_always (halways : ∀ c, always c = true → encoded c = true)
    (hpercent : encoded '%' = false)
    (hdigit : ∀ n < 256, (hexValue? (UInt8.ofNat n)).isSome → encoded (Char.ofNat n) = false) :
    Reversible encoded where
  outside c h := by
    have hle : 0x7F ≤ c.toNat := by omega
    exact halways c (by simp [always, hle])
  percent := hpercent
  digit b h := hdigit b.toNat b.toNat_lt (by rwa [UInt8.ofNat_toNat])

theorem reversible_inPath : Reversible inPath :=
  reversible_of_always (fun c h => by simp [inPath, inFragment, h]) (by decide) (by decide +kernel)

theorem reversible_inQuery : Reversible inQuery :=
  reversible_of_always (fun c h => by simp [inQuery, h]) (by decide) (by decide +kernel)

/-- How a byte is encoded: as an escape, or as itself. -/
def byteEncoded (encoded : Char → Bool) (b : UInt8) : Bytes :=
  if encoded (Char.ofNat b.toNat) then utf8 (encodeByte b) else [b]

theorem utf8_flatMap {α : Type} {l : List α} {f : α → List Char} :
    utf8 (l.flatMap f) = l.flatMap fun x => utf8 (f x) := List.flatMap_assoc

theorem utf8_encodeChar (h : ∀ c, 0x80 ≤ c.toNat → encoded c = true) :
    utf8 (if encoded c then (String.utf8EncodeChar c).flatMap encodeByte else [c]) =
      (String.utf8EncodeChar c).flatMap (byteEncoded encoded) := by
  by_cases hascii : c.toNat < 0x80
  · have hval : (UInt8.ofNat c.toNat).toNat = c.toNat := by
      rw [UInt8.toNat_ofNat']
      omega
    rw [utf8EncodeChar_of_ascii hascii, List.flatMap_singleton, List.flatMap_singleton, byteEncoded,
      hval, Char.ofNat_toNat]
    split
    · rfl
    · rw [utf8_cons, utf8_nil, List.append_nil, utf8EncodeChar_of_ascii hascii]
  · have hlarge : ∀ b ∈ String.utf8EncodeChar c, byteEncoded encoded b = utf8 (encodeByte b) := by
      intro b hb
      have hle := le_of_mem_utf8EncodeChar (Nat.not_lt.mp hascii) hb
      have hlt := b.toNat_lt
      have hval : (Char.ofNat b.toNat).toNat = b.toNat := val_ofNat (.inl (by omega))
      rw [byteEncoded, h _ (hval.symm ▸ hle), if_pos rfl]
    rw [h c (Nat.not_lt.mp hascii), if_pos rfl, utf8_flatMap]
    exact (List.flatMap_congr hlarge).symm

theorem utf8_encode (h : ∀ c, 0x80 ≤ c.toNat → encoded c = true) :
    utf8 (encode encoded cs) = (utf8 cs).flatMap (byteEncoded encoded) := by
  rw [encode, utf8_flatMap, utf8, List.flatMap_assoc]
  exact List.flatMap_congr fun c _ => utf8_encodeChar h

theorem hexValue?_hexUpper : ∀ n < 16, hexValue? (UInt8.ofNat (hexUpper n).toNat) = some n := by
  decide

theorem utf8_encodeByte : utf8 (encodeByte b) = [0x25, UInt8.ofNat (hexUpper (b.toNat / 16)).toNat,
    UInt8.ofNat (hexUpper (b.toNat % 16)).toNat] := by
  have hdigit : ∀ n < 16, String.utf8EncodeChar (hexUpper n) = [UInt8.ofNat (hexUpper n).toNat] := by
    decide
  have hlt := b.toNat_lt
  rw [encodeByte, utf8_cons, utf8_cons, utf8_cons, hdigit _ (by omega), hdigit _ (by omega)]
  rfl

theorem decode_encodeByte : decode (utf8 (encodeByte b) ++ bytes) = b :: decode bytes := by
  have hlt := b.toNat_lt
  have hb : b = UInt8.ofNat (b.toNat / 16 * 16 + b.toNat % 16) := by
    rw [ofNat_eq_of_toNat (b := b) (by omega)]
  rw [utf8_encodeByte]
  exact decode_of_escaped? (escaped?_eq_some_iff.mpr ⟨_, _, b.toNat / 16, b.toNat % 16, rfl,
    hexValue?_hexUpper _ (by omega), hexValue?_hexUpper _ (by omega), hb⟩)

theorem byteEncoded_of_digit (h : Reversible encoded) (hb : (hexValue? b).isSome) :
    byteEncoded encoded b = [b] := by
  rw [byteEncoded, h.digit b hb]
  rfl

/-- What is not a digit is not encoded with a digit in front. -/
theorem exists_byteEncoded (encoded : Char → Bool) (h : hexValue? b = none) :
    ∃ d rest, byteEncoded encoded b = d :: rest ∧ hexValue? d = none := by
  rw [byteEncoded]
  split
  · exact ⟨0x25, _, utf8_encodeByte, rfl⟩
  · exact ⟨b, [], rfl, h⟩

theorem escaped?_cons (h : hexValue? b = none) : escaped? (b :: bytes) = none := by
  cases bytes <;> simp [escaped?, h]

theorem escaped?_cons_cons {a : UInt8} (h : hexValue? b = none) : escaped? (a :: b :: bytes) = none := by
  simp [escaped?, h]

/-- Encoding makes no two digits. -/
theorem escaped?_flatMap (h : Reversible encoded) (hbytes : escaped? bytes = none) :
    escaped? (bytes.flatMap (byteEncoded encoded)) = none := by
  cases bytes with
  | nil => rfl
  | cons a bytes =>
    rw [List.flatMap_cons]
    cases ha : hexValue? a with
    | none =>
      obtain ⟨d, rest, hd, hnone⟩ := exists_byteEncoded encoded ha
      rw [hd]
      exact escaped?_cons hnone
    | some x =>
      rw [byteEncoded_of_digit h (by rw [ha]; rfl)]
      cases bytes with
      | nil => rfl
      | cons b bytes =>
        have hb : hexValue? b = none := by
          cases hb : hexValue? b with
          | none => rfl
          | some y => simp [escaped?, ha, hb] at hbytes
        obtain ⟨d, rest, hd, hnone⟩ := exists_byteEncoded encoded hb
        rw [List.flatMap_cons, hd]
        exact escaped?_cons_cons hnone

theorem decode_flatMap (h : Reversible encoded) :
    decode (bytes.flatMap (byteEncoded encoded)) = decode bytes := by
  induction hlen : bytes.length using Nat.strongRecOn generalizing bytes with
  | ind n ih =>
    cases bytes with
    | nil => rfl
    | cons b bytes =>
      rw [List.length_cons] at hlen
      have hnext := ih bytes.length (by omega) rfl
      rw [List.flatMap_cons]
      by_cases hb : b = 0x25
      · subst hb
        have hself : byteEncoded encoded 0x25 = [0x25] := if_neg (by simpa using h.percent)
        rw [hself, List.singleton_append]
        cases hescaped : escaped? bytes with
        | none =>
          rw [decode_of_not_escaped? hescaped, decode_of_not_escaped? (escaped?_flatMap h hescaped),
            hnext]
        | some out =>
          obtain ⟨d, rest⟩ := out
          have hrest := ih rest.length (by have := length_of_escaped? hescaped; omega) rfl
          obtain ⟨high, low, x, y, rfl, hx, hy, rfl⟩ := escaped?_eq_some_iff.mp hescaped
          rw [decode_of_escaped? hescaped, List.flatMap_cons, List.flatMap_cons,
            byteEncoded_of_digit h (by rw [hx]; rfl), byteEncoded_of_digit h (by rw [hy]; rfl), ← hrest]
          exact decode_of_escaped? (escaped?_eq_some_iff.mpr ⟨high, low, x, y, rfl, hx, hy, rfl⟩)
      · rw [decode_cons_of_ne hb]
        by_cases henc : encoded (Char.ofNat b.toNat)
        · rw [byteEncoded, if_pos henc, decode_encodeByte, hnext]
        · rw [byteEncoded, if_neg henc, List.singleton_append, decode_cons_of_ne hb, hnext]

/-- An encoded text decodes to what the text itself decodes to. -/
theorem decode_encode (h : Reversible encoded) :
    decode (utf8 (encode encoded cs)) = decode (utf8 cs) := by
  rw [utf8_encode h.outside, decode_flatMap h]

end MetricsGateway.Percent
