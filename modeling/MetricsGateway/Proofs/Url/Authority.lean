import MetricsGateway.Proofs.Number.Unsigned
import MetricsGateway.Proofs.Text.Cuts
import MetricsGateway.Proofs.Url.Rereading

/-!
The host and the port that a target names, read from its authority. Main statement: of a target that is
made from a URL they are the host and the port of the URL, whatever its user information looks like.
-/

namespace MetricsGateway

namespace Target

variable {t : Target}

/-- The host that the authority names: an address in brackets, or what stands before the port. -/
def host (t : Target) : List Char :=
  match t.place with
  | '[' :: rest => '[' :: rest.takeWhile (· != ']') ++ [']']
  | name => name.takeWhile (· != ':')

/-- The port that the authority names: the number after its last colon, if it is one. -/
def port? (t : Target) : Option Nat :=
  (Text.splitLast ':' t.authority).bind fun cut => (Number.readUnsigned 65536 cut.2).toOption

/-- What is in front of the host: nothing, or user information up to its end. -/
def IsUserInfo (info : List Char) : Prop := info = [] ∨ ∃ front, info = front ++ ['@']

variable {info rest : List Char}

theorem place_eq (hinfo : IsUserInfo info) (hrest : '@' ∉ rest) (h : t.authority = info ++ rest) :
    t.place = rest := by
  have hall : ∀ c ∈ rest.reverse, (c != '@') = true := by
    intro c hc
    rw [bne_iff_ne]
    rintro rfl
    exact hrest (List.mem_reverse.mp hc)
  have hstop : ∀ c ∈ info.reverse.head?, (c != '@') = false := by
    obtain rfl | ⟨front, rfl⟩ := hinfo
    · nofun
    · intro c hc
      simp only [List.reverse_append, List.reverse_singleton, List.singleton_append, List.head?_cons,
        Option.mem_some_iff] at hc
      simp [← hc]
  rw [place, h, List.reverse_append, Text.takeWhile_left hall hstop, List.reverse_reverse]

theorem port?_eq_some {front : List Char} {n : Nat} (hn : n < 65536)
    (h : t.authority = front ++ ':' :: Nat.toDigits 10 n) : t.port? = some n := by
  have hcolon : ':' ∉ Nat.toDigits 10 n := fun hm =>
    absurd (Nat.isDigit_of_mem_toDigits (by omega) (by omega) hm) (by decide)
  rw [port?, h, Text.splitLast_append hcolon, Option.bind_some, Number.readUnsigned_toDigits hn]
  rfl

/-- What is behind the last colon is no number when something else is behind all colons. -/
theorem port?_eq_none (front back : List Char) {c : Char} (hcolon : ':' ∉ back) (hc : c ∈ back)
    (hdigit : ¬ (c.isDigit = true ∨ c = '+')) (h : t.authority = front ++ back) : t.port? = none := by
  rw [port?, h, Option.bind_eq_none_iff]
  rintro ⟨before, digits⟩ hcut
  change (Number.readUnsigned 65536 digits).toOption = none
  cases hread : Number.readUnsigned 65536 digits with
  | error e => rfl
  | ok n =>
    have hmem : c ∈ digits := Text.subset_of_splitLast hcolon hcut hc
    exact absurd ((Number.readUnsigned_eq_ok_iff.mp hread).1.chars c hmem) hdigit

theorem port?_eq_none_of_not_mem (h : ':' ∉ t.authority) : t.port? = none := by
  rw [port?, Option.bind_eq_none_iff]
  rintro ⟨before, digits⟩ hcut
  exact absurd (Text.eq_of_splitLast hcut ▸ List.mem_append_right before List.mem_cons_self) h

end Target

namespace Url

variable {u : Url} {t : Target} {cs info tail : List Char}

theorem HostText.not_mem_at (h : HostText cs) : '@' ∉ cs := by
  cases h with
  | name h => exact fun hm => (h '@' hm).2.1 rfl
  | bracketed h =>
    intro hm
    have hinner := by simpa using hm
    exact (h '@' hinner).2.1 rfl

/-- The host is told from the port behind it. -/
theorem HostText.host_eq (h : HostText cs) (htail : ∀ c ∈ tail.head?, c = ':')
    (hplace : t.place = cs ++ tail) : t.host = cs := by
  have hstop : ∀ c ∈ tail.head?, (c != ':') = false := by
    intro c hc
    rw [htail c hc]
    rfl
  cases h with
  | name h =>
    have hall : ∀ c ∈ cs, (c != ':') = true := fun c hc => bne_iff_ne.mpr (h c hc).2.2.1
    rw [Target.host, hplace]
    split
    · next rest hbracket =>
      -- neither the name nor the port begins with a bracket
      cases cs with
      | nil => exact absurd (htail '[' (by rw [← List.nil_append tail, hbracket]; rfl)) (by decide)
      | cons c cs =>
        obtain rfl : c = '[' := (List.cons.inj hbracket).1
        exact absurd rfl (h '[' List.mem_cons_self).2.2.2
    · exact Text.takeWhile_left hall hstop
  | @bracketed inner h =>
    have hall : ∀ c ∈ inner, (c != ']') = true := fun c hc => bne_iff_ne.mpr (h c hc).2.2
    have hrest : ('[' :: (inner ++ [']'])) ++ tail = '[' :: (inner ++ ']' :: tail) := by simp
    have hinner : (inner ++ ']' :: tail).takeWhile (· != ']') = inner :=
      Text.takeWhile_left hall (by simp)
    rw [Target.host, hplace, hrest]
    exact congrArg ('[' :: · ++ [']']) hinner

theorem HostText.port?_eq_none (h : HostText cs) (hinfo : Target.IsUserInfo info)
    (hauthority : t.authority = info ++ cs) : t.port? = none := by
  cases h with
  | name h =>
    have hcolon : ':' ∉ cs := fun hm => (h ':' hm).2.2.1 rfl
    obtain rfl | ⟨front, rfl⟩ := hinfo
    · exact Target.port?_eq_none_of_not_mem (by simpa [hauthority] using hcolon)
    · have hback : ':' ∉ '@' :: cs := by simpa using hcolon
      apply Target.port?_eq_none front ('@' :: cs) hback List.mem_cons_self (by decide)
      rw [hauthority, List.append_assoc, List.singleton_append]
  | @bracketed inner h =>
    apply Target.port?_eq_none (info ++ '[' :: inner) [']'] (by decide) List.mem_cons_self (by decide)
    rw [hauthority, List.append_assoc, List.cons_append]

theorem isUserInfo_userInfoText : Target.IsUserInfo u.userInfoText := by
  rw [userInfoText]
  split
  · exact .inl rfl
  · exact .inr ⟨_, rfl⟩

/-- A target with the authority of a URL names its host and its port. -/
theorem OfParts.host_port (h : OfParts u) (hauthority : t.authority = u.authorityText) :
    t.host = u.host.text.toList ∧ t.port? = u.port := by
  obtain ⟨text, hread⟩ := h.host
  have hhost : HostText u.host.text.toList := hostText_of_readHost hread
  have hinfo : Target.IsUserInfo u.userInfoText := isUserInfo_userInfoText
  rw [authorityText, List.append_assoc] at hauthority
  cases hport : u.port with
  | none =>
    rw [hport, List.append_nil] at hauthority
    have hplace : t.place = u.host.text.toList := Target.place_eq hinfo hhost.not_mem_at hauthority
    have hend : ∀ c ∈ ([] : List Char).head?, c = ':' := by simp
    exact ⟨hhost.host_eq hend (by rw [hplace, List.append_nil]), hhost.port?_eq_none hinfo hauthority⟩
  | some n =>
    simp only [hport, Nat.toString_eq_repr, Nat.toList_repr] at hauthority
    have hat : '@' ∉ u.host.text.toList ++ ':' :: Nat.toDigits 10 n := by
      rw [List.mem_append, List.mem_cons, not_or, not_or]
      refine ⟨hhost.not_mem_at, by decide, fun hm => ?_⟩
      exact absurd (Nat.isDigit_of_mem_toDigits (by omega) (by omega) hm) (by decide)
    have hplace := Target.place_eq hinfo hat hauthority
    exact ⟨hhost.host_eq (by simp) hplace,
      Target.port?_eq_some (h.port n hport) (hauthority.trans (List.append_assoc ..).symm)⟩

end Url

end MetricsGateway
