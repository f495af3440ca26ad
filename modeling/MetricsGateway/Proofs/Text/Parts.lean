import MetricsGateway.Proofs.Text.Utf8
import MetricsGateway.Text.Space

/-!
Functions on texts that work on each part between separators by itself. Such a function can be applied
before the text is cut or after, as long as it makes no separators of its own.
-/

namespace MetricsGateway.Text

variable {α β : Type} [BEq α] [LawfulBEq α] [BEq β] [LawfulBEq β] {a : α} {b : β} {xs part : List α}
  {f : List α → List β} {sep c : Char} {cs : List Char}

/-- A function that puts `b` where `a` stood, and for which nothing passes a separator. -/
structure Partwise (f : List α → List β) (a : α) (b : β) : Prop where
  eq_nil_iff : ∀ {xs}, f xs = [] ↔ xs = []
  cut : ∀ xs ys, f (xs ++ a :: ys) = f xs ++ b :: f ys

omit [BEq α] [LawfulBEq α] [BEq β] [LawfulBEq β] in
theorem Partwise.comp {γ : Type} {g : List β → List γ} {c : γ} (hg : Partwise g b c)
    (hf : Partwise f a b) : Partwise (fun xs => g (f xs)) a c where
  eq_nil_iff := hg.eq_nil_iff.trans hf.eq_nil_iff
  cut xs ys := by rw [hf.cut, hg.cut]

theorem Partwise.splitOn (hf : Partwise f a b) (h : ∀ part ∈ xs.splitOn a, b ∉ f part) :
    (f xs).splitOn b = (xs.splitOn a).map f := by
  -- on the part up to the first separator
  induction hlen : xs.length using Nat.strongRecOn generalizing xs with
  | ind n ih =>
    by_cases ha : a ∈ xs
    · obtain ⟨first, rest, rfl, hfirst⟩ := List.eq_append_cons_of_mem ha
      rw [List.splitOn_append_cons_self_of_not_mem hfirst] at h ⊢
      have hrest := ih rest.length (by simp [← hlen]; omega)
        (fun part hpart => h part (List.mem_cons_of_mem first hpart)) rfl
      rw [hf.cut, List.splitOn_append_cons_self_of_not_mem (h first List.mem_cons_self), hrest,
        List.map_cons]
    · rw [List.splitOn_eq_singleton ha] at h ⊢
      rw [List.splitOn_eq_singleton (h xs List.mem_cons_self)]
      rfl

/-- Separators at the beginning can be left out before or after. -/
theorem Partwise.dropWhile (hf : Partwise f a b) (h : ∀ part ∈ xs.splitOn a, b ∉ f part) :
    (f xs).dropWhile (· == b) = f (xs.dropWhile (· == a)) := by
  induction xs with
  | nil => rw [List.dropWhile_nil, hf.eq_nil_iff.mpr rfl, List.dropWhile_nil]
  | cons x xs ih =>
    by_cases hx : x = a
    · subst hx
      have hcut : f (x :: xs) = b :: f xs := by
        have := hf.cut [] xs
        rwa [hf.eq_nil_iff.mpr rfl] at this
      rw [hcut, List.dropWhile_cons_of_pos (by simp),
        List.dropWhile_cons_of_pos (by simp), ih fun part hpart => h part ?_]
      rw [List.splitOn_cons_eq_if_modifyHead, if_pos (beq_self_eq_true x)]
      exact List.mem_cons_of_mem [] hpart
    · have hxa : ¬ (x == a) = true := fun he => hx (eq_of_beq he)
      have hparts := hf.splitOn h
      rw [List.dropWhile_cons_of_neg (by simpa using hx)]
      cases hfx : f (x :: xs) with
      | nil => rfl
      | cons y ys =>
        rw [List.dropWhile_cons_of_neg]
        -- a separator in front would leave nothing of a part that begins with `x`
        intro hy
        obtain ⟨first, rest, hfirst⟩ := List.exists_cons_of_ne_nil (List.splitOn_ne_nil a xs)
        rw [hfx, List.splitOn_cons_eq_if_modifyHead, List.splitOn_cons_eq_if_modifyHead, if_pos hy,
          if_neg hxa, hfirst, List.modifyHead_cons, List.map_cons, List.cons.injEq] at hparts
        exact List.cons_ne_nil x first (hf.eq_nil_iff.mp hparts.1.symm)

/-! ## Texts and their bytes -/

theorem splitOnChar_eq_splitOn : splitOnChar sep cs = cs.splitOn sep := by
  induction cs with
  | nil => rfl
  | cons c cs ih =>
    obtain ⟨first, rest, hfirst⟩ := List.exists_cons_of_ne_nil (List.splitOn_ne_nil sep cs)
    rw [splitOnChar, ih, List.splitOn_cons_eq_if_modifyHead, hfirst]
    simp only [beq_iff_eq, List.modifyHead_cons]

theorem partwise_utf8 (sep : Char) (h : sep.toNat < 0x80) : Partwise utf8 sep (UInt8.ofNat sep.toNat) where
  eq_nil_iff {cs} := by
    cases cs with
    | nil => simp
    | cons c cs => simp [List.append_eq_nil_iff, String.utf8EncodeChar_ne_nil]
  cut cs more := by rw [utf8_append, utf8_cons, utf8EncodeChar_of_ascii h, List.singleton_append]

/-- A byte in ASCII stands for nothing but its character. -/
theorem mem_utf8 (h : c.toNat < 0x80) : UInt8.ofNat c.toNat ∈ utf8 cs ↔ c ∈ cs := by
  constructor
  · intro hmem
    obtain ⟨d, hd, hb⟩ := List.mem_flatMap.mp hmem
    have hval : (UInt8.ofNat c.toNat).toNat = c.toNat := by rw [UInt8.toNat_ofNat']; omega
    by_cases hascii : d.toNat < 0x80
    · rw [utf8EncodeChar_of_ascii hascii, List.mem_singleton] at hb
      have hcd : c.toNat = d.toNat := by
        rw [← hval, hb, UInt8.toNat_ofNat']
        omega
      rwa [Char.toNat_inj.mp hcd]
    · have hle := le_of_mem_utf8EncodeChar (Nat.not_lt.mp hascii) hb
      omega
  · intro hmem
    refine List.mem_flatMap.mpr ⟨c, hmem, ?_⟩
    rw [utf8EncodeChar_of_ascii h]
    exact List.mem_cons_self

end MetricsGateway.Text
