import MetricsGateway.Proofs.Url.Addresses
import MetricsGateway.Proofs.Url.Rereading

/-!
The authority of a URL read again as that of a target: user information, host and port one after another. Only
the name of a host can be in the way, with one of four characters that names of hosts may hold.
-/

namespace MetricsGateway

open Text

theorem Text.forall_ascii {p : Char → Prop} (h : ∀ n < 0x80, p (Char.ofNat n)) {c : Char}
    (hc : c.toNat < 0x80) : p c := by
  rw [← Char.ofNat_toNat c]
  exact h c.toNat hc

/-- What holds of all characters in ASCII that a set leaves as they are holds of all that it does. -/
theorem Percent.forall_plain {encoded : Char → Bool} {p : Char → Prop}
    (halways : ∀ c, always c = true → encoded c = true)
    (h : ∀ n < 0x80, encoded (Char.ofNat n) = false → p (Char.ofNat n)) {c : Char}
    (hc : encoded c = false) : p c := by
  have hascii : c.toNat < 0x80 := by
    by_contra hle
    have hle : 0x7F ≤ c.toNat := by omega
    rw [halways c (by simp [always, hle])] at hc
    cases hc
  exact forall_ascii (p := fun c => encoded c = false → p c) h hascii hc

namespace Target

variable {cs : List Char} {c : Char} {s : AuthorityState}

/-! ## Reading an authority -/

/-- A character that changes nothing in an authority but the number of colons and whether there is a percent
sign. -/
def Ordinary (c : Char) : Prop :=
  c = ':' ∨ c = '%' ∨ (isAuthorityChar c = true ∧ c ≠ '[' ∧ c ≠ ']' ∧ c ≠ '@')

instance : DecidablePred Ordinary := fun _ => inferInstanceAs (Decidable (_ ∨ _))

theorem next_of_ordinary (h : Ordinary c) (hcolons : s.colons + [c].count ':' ≤ 8) :
    s.next c = .ok ⟨s.colons + [c].count ':', s.opened, s.closed, s.percent || [c].contains '%', false⟩ := by
  by_cases hcolon : c = ':'
  · subst hcolon
    have hlt : ¬ 8 ≤ s.colons := by
      rw [List.count_singleton_self] at hcolons
      omega
    simp [AuthorityState.next, hlt]
  · by_cases hpercent : c = '%'
    · subst hpercent
      simp [AuthorityState.next]
    · obtain ⟨hchar, hopen, hclose, hat⟩ := (h.resolve_left hcolon).resolve_left hpercent
      simp [AuthorityState.next, hcolon, hpercent, hchar, hopen, hclose, hat, Ne.symm hpercent]

theorem foldlM_next (h : ∀ c ∈ cs, Ordinary c) (hcolons : s.colons + cs.count ':' ≤ 8) :
    cs.foldlM AuthorityState.next s = .ok ⟨s.colons + cs.count ':', s.opened, s.closed,
      s.percent || cs.contains '%', s.afterAt && cs.isEmpty⟩ := by
  induction cs generalizing s with
  | nil => simp [pure, Except.pure]
  | cons c cs ih =>
    have hcount : (c :: cs).count ':' = [c].count ':' + cs.count ':' := by
      rw [← List.singleton_append, List.count_append]
    rw [hcount] at hcolons
    rw [List.foldlM_cons, next_of_ordinary (h c List.mem_cons_self) (by omega)]
    refine (ih (fun d hd => h d (List.mem_cons_of_mem c hd)) (by change _ + _ + _ ≤ 8; omega)).trans ?_
    simp [hcount, Nat.add_assoc, Bool.or_assoc]

/-- The characters that the name of a host can hold, but no target. -/
def awkward : List Char := ['"', '`', '{', '}']

theorem plain_cases (h : Domain.isPlain c = true) : c ∈ awkward ∨
    (c ∉ awkward ∧ isAuthorityChar c = true ∧ c ∉ [':', '%', '[', ']', '@']) := by
  have hascii : c.toNat < 0x80 := of_decide_eq_true (Bool.and_eq_true_iff.mp h).2
  revert h
  exact forall_ascii (p := fun c => Domain.isPlain c = true → c ∈ awkward ∨
    (c ∉ awkward ∧ isAuthorityChar c = true ∧ c ∉ [':', '%', '[', ']', '@'])) (by decide +kernel) hascii

theorem next_of_plain (h : Domain.isPlain c = true) : s.next c =
    if awkward.contains c then .error .invalidCharacter else .ok { s with afterAt := false } := by
  obtain hawkward | ⟨hawkward, hchar, hother⟩ := plain_cases h
  · rw [if_pos (List.contains_iff_mem.mpr hawkward)]
    simp only [awkward, List.mem_cons, List.not_mem_nil, or_false] at hawkward
    obtain rfl | rfl | rfl | rfl := hawkward <;> rfl
  · simp only [List.mem_cons, List.not_mem_nil, or_false, not_or] at hother
    simp [AuthorityState.next, hawkward, hchar, hother]

/-- The name of a host is read unless it holds a character that no target can. -/
theorem foldlM_next_of_plain (h : ∀ c ∈ cs, Domain.isPlain c = true) :
    cs.foldlM AuthorityState.next s = if cs.any awkward.contains then .error .invalidCharacter
      else .ok { s with afterAt := s.afterAt && cs.isEmpty } := by
  induction cs generalizing s with
  | nil => simp [pure, Except.pure]
  | cons c cs ih =>
    rw [List.foldlM_cons, next_of_plain (h c List.mem_cons_self)]
    rw [List.any_cons]
    cases awkward.contains c with
    | true => rfl
    | false =>
      refine (ih fun d hd => h d (List.mem_cons_of_mem c hd)).trans ?_
      simp

theorem foldlM_next_bracketed (h : ∀ c ∈ cs, Ordinary c ∧ c ≠ '%') (hcolons : cs.count ':' ≤ 8)
    (b : Bool) : ('[' :: (cs ++ [']'])).foldlM AuthorityState.next ⟨0, false, false, false, b⟩ =
      .ok ⟨0, true, true, false, false⟩ := by
  have hpercent : cs.contains '%' = false := by
    simpa using fun hm => (h '%' hm).2 rfl
  have hinner : cs.foldlM AuthorityState.next ⟨0, true, false, false, false⟩ =
      .ok ⟨0 + cs.count ':', true, false, false || cs.contains '%', false && cs.isEmpty⟩ :=
    foldlM_next (fun c hc => (h c hc).1) (by simpa using hcolons)
  rw [List.foldlM_cons]
  refine (List.foldlM_append ..).trans ?_
  rw [hinner, hpercent]
  rfl

end Target

namespace Url

variable {u : Url} {cs : List Char}

/-! ## Authorities of URLs -/

theorem ordinary_userInfo : ∀ c ∈ Percent.encode Percent.inUserInfo cs, Target.Ordinary c ∧ c ≠ ':' := by
  refine Percent.forall_mem_encode (by decide) (by decide) fun c _ hplain => ?_
  exact Percent.forall_plain (p := fun c => Target.Ordinary c ∧ c ≠ ':')
    (fun c h => by simp [Percent.inUserInfo, Percent.inPath, Percent.inFragment, h]) (by decide +kernel)
    hplain

theorem ordinary_readUserInfo : (∀ c ∈ (readUserInfo cs).1, Target.Ordinary c ∧ c ≠ ':') ∧
    ∀ c ∈ (readUserInfo cs).2, Target.Ordinary c ∧ c ≠ ':' := by
  rw [readUserInfo]
  split
  · exact ⟨ordinary_userInfo, ordinary_userInfo⟩
  · exact ⟨ordinary_userInfo, fun c hc => absurd hc List.not_mem_nil⟩

theorem OfParts.foldlM_userInfoText (h : OfParts u) :
    ∃ b, u.userInfoText.foldlM Target.AuthorityState.next ⟨0, false, false, false, false⟩ =
      .ok ⟨0, false, false, false, b⟩ := by
  obtain ⟨info, hname, hpassword⟩ := h.userInfo
  obtain ⟨hfirst, hsecond⟩ : (∀ c ∈ u.username, Target.Ordinary c ∧ c ≠ ':') ∧
      ∀ c ∈ u.password, Target.Ordinary c ∧ c ≠ ':' := by
    rw [hname, hpassword]
    exact ordinary_readUserInfo
  have hzero {cs : List Char} (hcs : ∀ c ∈ cs, Target.Ordinary c ∧ c ≠ ':') : cs.count ':' = 0 :=
    List.count_eq_zero.mpr fun hm => (hcs ':' hm).2 rfl
  rw [userInfoText]
  split
  · exact ⟨false, rfl⟩
  · refine ⟨true, (List.foldlM_append ..).trans ?_⟩
    have hfront : ∀ c ∈ u.username ++ (if u.password.isEmpty then [] else ':' :: u.password),
        Target.Ordinary c := by
      intro c hc
      obtain hc | hc := List.mem_append.mp hc
      · exact (hfirst c hc).1
      · split at hc
        · cases hc
        · obtain rfl | hc := List.mem_cons.mp hc
          · exact .inl rfl
          · exact (hsecond c hc).1
    have hcolons : (u.username ++ (if u.password.isEmpty then [] else ':' :: u.password)).count ':' ≤ 1 := by
      rw [List.count_append, hzero hfirst]
      split
      · simp
      · rw [List.count_cons_self, hzero hsecond]
    rw [Target.foldlM_next hfront (by change 0 + _ ≤ 8; omega)]
    rfl

/-- What an authority writes of the port. -/
def portText (u : Url) : List Char :=
  match u.port with
  | some p => ':' :: (toString p).toList
  | none => []

theorem authorityText_eq : u.authorityText = u.userInfoText ++ u.host.text.toList ++ u.portText := rfl

theorem foldlM_portText (u : Url) (b : Bool) : ∃ colons ≤ 1,
    u.portText.foldlM Target.AuthorityState.next ⟨0, b, b, false, false⟩ = .ok ⟨colons, b, b, false, false⟩ := by
  rw [portText]
  cases u.port with
  | none => exact ⟨0, by omega, rfl⟩
  | some p =>
    have hdigits : ∀ c ∈ Nat.toDigits 10 p, Target.Ordinary c ∧ c ≠ ':' ∧ c ≠ '%' :=
      forall_mem_toDigits (by decide) (by omega) (by omega) p
    have hcolon : (':' :: Nat.toDigits 10 p).count ':' = 1 := by
      rw [List.count_cons_self, List.count_eq_zero.mpr fun hm => (hdigits ':' hm).2.1 rfl]
    have hpercent : (':' :: Nat.toDigits 10 p).contains '%' = false := by
      simpa using fun hm => (hdigits '%' hm).2.2 rfl
    have hport := Target.foldlM_next (s := ⟨0, b, b, false, false⟩)
      (List.forall_mem_cons.mpr ⟨.inl rfl, fun c hc => (hdigits c hc).1⟩)
      (by rw [hcolon]; change 0 + 1 ≤ 8; omega)
    rw [hcolon, hpercent] at hport
    refine ⟨1, le_refl 1, ?_⟩
    simp only [Nat.toString_eq_repr, Nat.toList_repr]
    exact hport

/-- The host is read from its brackets on, or up to the first character that no target can hold. -/
theorem OfParts.foldlM_host (h : OfParts u) (b : Bool) : ∃ closed,
    u.host.text.toList.foldlM Target.AuthorityState.next ⟨0, false, false, false, b⟩ =
      if u.host.text.toList.any Target.awkward.contains then .error .invalidCharacter
      else .ok ⟨0, closed, closed, false, false⟩ := by
  obtain ⟨text, hread⟩ := h.host
  obtain ⟨hne, hplain⟩ | ⟨pieces, text, hhost, hpieces⟩ := plain_or_ipv6_of_readHost hread
  · have hnonempty : u.host.text.toList.isEmpty = false := List.isEmpty_eq_false_iff.mpr hne
    refine ⟨false, ?_⟩
    rw [Target.foldlM_next_of_plain hplain, hnonempty, Bool.and_false]
  · have htext : u.host.text.toList = '[' :: ((Address.ipv6Text pieces).toList ++ [']']) := by
      simp [hhost, Host.text]
    have hinner : ∀ c ∈ (Address.ipv6Text pieces).toList,
        (Target.Ordinary c ∧ c ≠ '%') ∧ c ∉ Target.awkward :=
      Address.forall_mem_ipv6Text (by decide) (by decide) pieces
    have hawkward : u.host.text.toList.any Target.awkward.contains = false := by
      have hnone : (Address.ipv6Text pieces).toList.any Target.awkward.contains = false :=
        List.any_eq_false.mpr fun c hc => mt List.contains_iff_mem.mp (hinner c hc).2
      rw [htext, List.any_cons, List.any_append, hnone]
      rfl
    have hcolons : (Address.ipv6Text pieces).toList.count ':' ≤ 8 :=
      Address.count_ipv6Text_le (Address.length_of_ipv6? hpieces)
    refine ⟨true, ?_⟩
    rw [hawkward, htext, Target.foldlM_next_bracketed (fun c hc => (hinner c hc).1) hcolons]
    rfl

/-- The authority of a URL can be read again unless the name of the host is in the way. -/
theorem OfParts.authorityFault? (h : OfParts u) : Target.authorityFault? u.authorityText =
    if u.host.text.toList.any Target.awkward.contains then some .invalidCharacter else none := by
  obtain ⟨b, hinfo⟩ := h.foldlM_userInfoText
  obtain ⟨closed, hhost⟩ := h.foldlM_host b
  rw [Target.authorityFault?, authorityText_eq, List.foldlM_append, List.foldlM_append, hinfo]
  dsimp only [bind, Except.bind]
  rw [hhost]
  cases u.host.text.toList.any Target.awkward.contains with
  | true => rfl
  | false =>
    obtain ⟨colons, hle, hport⟩ := u.foldlM_portText closed
    rw [if_neg Bool.false_ne_true]
    dsimp only
    rw [hport]
    simp [hle]

theorem OfParts.authorityText_ne_nil (h : OfParts u) : u.authorityText ≠ [] := by
  obtain ⟨text, hread⟩ := h.host
  have hhost : u.host.text.toList ≠ [] := by
    obtain ⟨hne, -⟩ | ⟨pieces, text, hhost, -⟩ := plain_or_ipv6_of_readHost hread
    · exact hne
    · simp [hhost, Host.text]
  simp [authorityText_eq, hhost]

end Url

end MetricsGateway
