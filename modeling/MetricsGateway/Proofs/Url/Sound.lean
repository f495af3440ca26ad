import MetricsGateway.Proofs.Url.Segments
import MetricsGateway.Url.Basic

/-!
URLs as they come out of reading: their authority ends nowhere before its end, their path is rooted and
settled, and their query begins no fragment. Putting a path or a query in the place of their own keeps them so.
-/

namespace MetricsGateway

namespace Text

variable {c : Char} {sep : List Char} {parts : List (List Char)}

theorem mem_intercalate (h : c ∈ sep.intercalate parts) : c ∈ sep ∨ ∃ part ∈ parts, c ∈ part := by
  induction parts with
  | nil => cases h
  | cons part parts ih =>
    cases parts with
    | nil => exact .inr ⟨part, List.mem_cons_self, by simpa using h⟩
    | cons next parts =>
      rw [List.intercalate_cons_cons, List.mem_append, List.mem_append] at h
      obtain (h | h) | h := h
      · exact .inr ⟨part, List.mem_cons_self, h⟩
      · exact .inl h
      · exact (ih h).imp_right fun ⟨p, hp, hc⟩ => ⟨p, List.mem_cons_of_mem part hp, hc⟩

theorem mem_toDigits {base : Nat} (hb : 1 < base) (n : Nat) (h : c ∈ base.toDigits n) :
    ∃ d < base, c = d.digitChar := by
  induction n using Nat.strongRecOn with
  | ind n ih =>
    rw [Nat.toDigits_eq_if hb] at h
    split at h
    · next hlt => exact ⟨n, hlt, List.mem_singleton.mp h⟩
    · next hge =>
      obtain h | h := List.mem_append.mp h
      · exact ih (n / base) (Nat.div_lt_self (by omega) hb) h
      · exact ⟨n % base, Nat.mod_lt n (by omega), List.mem_singleton.mp h⟩

theorem forall_mem_toDigits {p : Char → Prop} (hdigit : ∀ d < 16, p d.digitChar) {base : Nat}
    (hb : 1 < base) (hle : base ≤ 16) (n : Nat) : ∀ c ∈ base.toDigits n, p c := by
  intro c hc
  obtain ⟨d, hd, rfl⟩ := mem_toDigits hb n hc
  exact hdigit d (by omega)

theorem forall_mem_join {p : Char → Prop} {sep : String} {parts : List String}
    (hsep : ∀ c ∈ sep.toList, p c) (h : ∀ part ∈ parts, ∀ c ∈ part.toList, p c) :
    ∀ c ∈ (sep.intercalate parts).toList, p c := by
  intro c hc
  rw [String.toList_intercalate] at hc
  obtain hc | ⟨part, hpart, hc⟩ := mem_intercalate hc
  · exact hsep c hc
  · obtain ⟨text, hm, rfl⟩ := List.mem_map.mp hpart
    exact h text hm c hc

end Text

namespace Address

variable {p : Char → Prop}

theorem forall_mem_ipv4Text (hdigit : ∀ d < 16, p d.digitChar) (hdot : p '.') (bits : Nat) :
    ∀ c ∈ (ipv4Text bits).toList, p c := by
  refine Text.forall_mem_join (by simpa using hdot) fun part hm c hc => ?_
  obtain ⟨i, -, rfl⟩ := List.mem_map.mp hm
  rw [Nat.toString_eq_repr, Nat.toList_repr] at hc
  exact Text.forall_mem_toDigits hdigit (by omega) (by omega) _ c hc

theorem ipv4Text_ne_nil {bits : Nat} : (ipv4Text bits).toList ≠ [] := by
  simp [ipv4Text]

theorem forall_mem_pieces (hdigit : ∀ d < 16, p d.digitChar) (hcolon : p ':') (pieces : List Nat) :
    ∀ c ∈ (":".intercalate (pieces.map fun n => String.ofList (Text.hexDigits n))).toList, p c := by
  refine Text.forall_mem_join (by simpa using hcolon) fun part hm c hc => ?_
  obtain ⟨n, -, rfl⟩ := List.mem_map.mp hm
  rw [String.toList_ofList] at hc
  exact Text.forall_mem_toDigits hdigit (by omega) (by omega) n c hc

theorem forall_mem_ipv6Text (hdigit : ∀ d < 16, p d.digitChar) (hcolon : p ':') (pieces : List Nat) :
    ∀ c ∈ (ipv6Text pieces).toList, p c := by
  intro c hc
  simp only [ipv6Text] at hc
  split at hc
  · exact forall_mem_pieces hdigit hcolon _ c hc
  · simp only [String.toList_append, List.mem_append] at hc
    obtain (hc | hc) | hc := hc
    · exact forall_mem_pieces hdigit hcolon _ c hc
    · obtain rfl : c = ':' := by simpa using hc
      exact hcolon
    · exact forall_mem_pieces hdigit hcolon _ c hc

end Address

namespace Url

variable {u base : Url} {host : Host} {cs path : List Char} {query : Option (List Char)}

/-! ## Authorities -/

/-- A character that may stand in an authority. -/
def Within (c : Char) : Prop := isAuthorityEnd false c = false

instance : DecidablePred Within := fun c => inferInstanceAs (Decidable (isAuthorityEnd false c = false))

/-- The text of a host: a name, or an address in brackets. Nothing in it ends an authority or looks like
the end of the user information, and a name holds no colon, so that a port can be told from it. -/
inductive HostText : List Char → Prop where
  | name {text : List Char} (h : ∀ c ∈ text, Within c ∧ c ≠ '@' ∧ c ≠ ':' ∧ c ≠ '[') : HostText text
  | bracketed {inner : List Char} (h : ∀ c ∈ inner, Within c ∧ c ≠ '@' ∧ c ≠ ']') :
      HostText ('[' :: (inner ++ [']']))

theorem hostText_domain (h : ∀ c ∈ cs, Domain.isPlain c = true) : HostText cs := by
  refine .name fun c hc => ?_
  have hplain {d : Char} (hd : Domain.isPlain d = false) : c ≠ d := by
    rintro rfl
    exact absurd (h c hc) (Bool.eq_false_iff.mp hd)
  have hends : c ≠ '/' ∧ c ≠ '?' ∧ c ≠ '#' :=
    ⟨hplain (by decide), hplain (by decide), hplain (by decide)⟩
  refine ⟨?_, hplain (by decide), hplain (by decide), hplain (by decide)⟩
  simp [Within, isAuthorityEnd, hends]

/-- A host is a name of characters that are looked up, or an address that stood in brackets. -/
theorem plain_or_ipv6_of_readHost (h : readHost cs = .ok host) :
    (host.text.toList ≠ [] ∧ ∀ c ∈ host.text.toList, Domain.isPlain c = true) ∨
      ∃ pieces text, host = .ipv6 pieces ∧ Address.ipv6? text = some pieces := by
  rw [readHost.eq_def] at h
  split at h
  · rw [readBracketed] at h
    split at h
    · split at h
      · next pieces hpieces => exact .inr ⟨pieces, _, (Except.ok.inj h).symm, hpieces⟩
      · cases h
    · cases h
  · split at h
    · cases h
    · cases h
    · next domain hne hread =>
      split at h
      · split at h
        · next bits _ =>
          obtain rfl := Except.ok.inj h
          exact .inl ⟨Address.ipv4Text_ne_nil, Address.forall_mem_ipv4Text (by decide) (by decide) bits⟩
        · cases h
      · obtain rfl := Except.ok.inj h
        obtain ⟨name, -, hascii⟩ := Option.bind_eq_some_iff.mp hread
        rw [Host.text, String.toList_ofList]
        exact .inl ⟨hne, Domain.isPlain_of_toAscii? hascii⟩

theorem hostText_ipv6 (pieces : List Nat) : HostText (Host.ipv6 pieces).text.toList := by
  have htext : (Host.ipv6 pieces).text.toList = '[' :: ((Address.ipv6Text pieces).toList ++ [']']) := by
    simp [Host.text]
  rw [htext]
  exact .bracketed (Address.forall_mem_ipv6Text (by decide) (by decide) pieces)

theorem hostText_of_readHost (h : readHost cs = .ok host) : HostText host.text.toList := by
  obtain ⟨-, hplain⟩ | ⟨pieces, -, rfl, -⟩ := plain_or_ipv6_of_readHost h
  · exact hostText_domain hplain
  · exact hostText_ipv6 pieces

theorem HostText.within (h : HostText cs) : ∀ c ∈ cs, Within c := by
  cases h with
  | name h => exact fun c hc => (h c hc).1
  | bracketed h =>
    intro c hc
    rw [List.mem_cons, List.mem_append, List.mem_singleton] at hc
    obtain rfl | hc | rfl := hc
    · decide
    · exact (h c hc).1
    · decide

theorem within_userInfo : ∀ c ∈ Percent.encode Percent.inUserInfo cs, Within c := by
  refine Percent.forall_mem_encode (by decide) (by decide) fun c _ hplain => ?_
  rw [Within, Bool.eq_false_iff]
  intro hend
  simp only [isAuthorityEnd, Bool.false_and, Bool.or_false, Bool.or_eq_true, beq_iff_eq] at hend
  obtain (rfl | rfl) | rfl := hend <;> exact absurd hplain (by decide)

theorem within_readUserInfo : (∀ c ∈ (readUserInfo cs).1, Within c) ∧ ∀ c ∈ (readUserInfo cs).2, Within c := by
  rw [readUserInfo]
  split
  · exact ⟨within_userInfo, within_userInfo⟩
  · exact ⟨within_userInfo, nofun⟩

/-- An authority is made of its user information, its host and its port. -/
theorem within_authorityText (hname : ∀ c ∈ u.username, Within c) (hpassword : ∀ c ∈ u.password, Within c)
    (hhost : ∀ c ∈ u.host.text.toList, Within c) : ∀ c ∈ u.authorityText, Within c := by
  intro c hc
  rw [authorityText, userInfoText, List.mem_append, List.mem_append] at hc
  obtain (hc | hc) | hc := hc
  · split at hc
    · cases hc
    · rw [List.mem_append, List.mem_append] at hc
      obtain (hc | hc) | hc := hc
      · exact hname c hc
      · split at hc
        · cases hc
        · obtain rfl | hc := List.mem_cons.mp hc
          · decide
          · exact hpassword c hc
      · obtain rfl := List.mem_singleton.mp hc
        decide
  · exact hhost c hc
  · split at hc
    · next port _ =>
      obtain rfl | hc := List.mem_cons.mp hc
      · decide
      · rw [Nat.toString_eq_repr, Nat.toList_repr] at hc
        exact Text.forall_mem_toDigits (by decide) (by omega) (by omega) port c hc
    · cases hc

/-! ## What reading gives -/

/-- A URL whose text can be cut into its parts again. -/
structure Sound (u : Url) : Prop where
  authority : ∀ c ∈ u.authorityText, Within c
  settled : ∀ s ∈ u.segments, Settled s
  rooted : u.segments ≠ []
  query : ∀ q ∈ u.query, '#' ∉ q

theorem not_mem_encode_inQuery : '#' ∉ Percent.encode Percent.inQuery cs := by
  intro hm
  refine Percent.forall_mem_encode (p := (· ≠ '#')) (by decide) (by decide) (fun c _ hplain => ?_) _ hm rfl
  rintro rfl
  exact absurd hplain (by decide)

theorem not_mem_splitQuery : ∀ q ∈ (splitQuery cs).2, '#' ∉ q := by
  intro q hq
  rw [splitQuery] at hq
  split at hq
  · obtain rfl := Option.mem_some_iff.mp hq
    exact not_mem_encode_inQuery
  · cases hq

/-- What reading finds in a text, put together. -/
structure OfParts (u : Url) : Prop where
  userInfo : ∃ info, u.username = (readUserInfo info).1 ∧ u.password = (readUserInfo info).2
  host : ∃ text, readHost text = .ok u.host
  port : ∀ n ∈ u.port, n < 65536
  path : ∃ path, u.segments = segmentsOf path
  query : ∃ text, u.query = (splitQuery text).2

theorem lt_of_readPort {value port : Option Nat} {rest : List Char} (hvalue : ∀ n ∈ value, n < 65536)
    (h : readPort value cs = .ok (port, rest)) : ∀ n ∈ port, n < 65536 := by
  induction cs generalizing value with
  | nil =>
    obtain ⟨rfl, -⟩ := Prod.mk.inj (Except.ok.inj h)
    exact hvalue
  | cons c cs ih =>
    simp only [readPort] at h
    split at h
    · split at h
      · cases h
      · refine ih (fun n hn => ?_) h
        obtain rfl := Option.some.inj hn
        omega
    · split at h
      · obtain ⟨rfl, -⟩ := Prod.mk.inj (Except.ok.inj h)
        exact hvalue
      · cases h

theorem lt_of_written {scheme : Scheme} {port : Option Nat} (h : ∀ n ∈ port, n < 65536) :
    ∀ n ∈ (if port = some scheme.defaultPort then none else port), n < 65536 := by
  split
  · simp
  · exact h

theorem ofParts_of_readHierarchy {scheme : Scheme} (h : readHierarchy scheme cs = .ok u) :
    OfParts u := by
  simp only [readHierarchy, bind, Except.bind, pure, Except.pure, throw, throwThe,
    MonadExceptOf.throw] at h
  split at h
  · cases h
  · split at h
    · cases h
    · split at h
      · cases h
      · next host hhost =>
        -- with and without a port
        split at h
        · split at h
          · cases h
          · next port hport =>
            obtain rfl := Except.ok.inj h
            exact ⟨⟨_, rfl, rfl⟩, ⟨_, hhost⟩, lt_of_written (lt_of_readPort (by simp) hport), ⟨_, rfl⟩,
              ⟨_, rfl⟩⟩
        · obtain rfl := Except.ok.inj h
          exact ⟨⟨_, rfl, rfl⟩, ⟨_, hhost⟩, by simp, ⟨_, rfl⟩, ⟨_, rfl⟩⟩

theorem ofParts_of_read {raw : String} (h : read raw = .ok u) : OfParts u := by
  simp only [read] at h
  split at h
  · cases h
  · split at h
    · exact ofParts_of_readHierarchy h
    · split at h
      · exact ofParts_of_readHierarchy h
      · split at h <;> cases h

theorem OfParts.sound (h : OfParts u) : Sound u := by
  obtain ⟨info, hname, hpassword⟩ := h.userInfo
  obtain ⟨text, hhost⟩ := h.host
  obtain ⟨path, hpath⟩ := h.path
  obtain ⟨query, hquery⟩ := h.query
  constructor
  · have hinfo : (∀ c ∈ (readUserInfo info).1, Within c) ∧ ∀ c ∈ (readUserInfo info).2, Within c :=
      within_readUserInfo
    rw [← hname, ← hpassword] at hinfo
    exact within_authorityText hinfo.1 hinfo.2 (hostText_of_readHost hhost).within
  · rw [hpath]
    exact settled_segmentsOf
  · rw [hpath]
    exact segmentsOf_ne_nil
  · rw [hquery]
    exact not_mem_splitQuery

theorem sound_of_read {raw : String} (h : read raw = .ok u) : Sound u := (ofParts_of_read h).sound

theorem Sound.withPath (h : Sound u) : Sound (u.withPath path) where
  authority := by simpa using h.authority
  settled := settled_segmentsOf
  rooted := segmentsOf_ne_nil
  query := h.query

theorem Sound.withQuery (h : Sound u) {query : List Char} : Sound (u.withQuery query) where
  authority := by simpa using h.authority
  settled := by simpa using h.settled
  rooted := by simpa using h.rooted
  query q hq := by
    obtain rfl := Option.mem_some_iff.mp hq
    exact not_mem_encode_inQuery

end Url

end MetricsGateway
