import MetricsGateway.Proofs.Text.Stretches
import MetricsGateway.Proofs.Url.Sound
import MetricsGateway.Traffic.Forwarding

/-!
The text of a URL read again as the target of a request: what can be read of it is cut into the parts of
the URL.
-/

namespace MetricsGateway

namespace Target

open Text

variable {u : Url} {t : Target} {cs authority path rest tail ending : List Char}
  {query : Option (List Char)}

theorem splitScheme_name (scheme : Scheme) :
    splitScheme (scheme.name.toList ++ "://".toList ++ rest) = .ok (some scheme.name.toList, rest) := by
  cases scheme <;> rfl

/-- What keeps a text from being an authority. -/
def authorityFault? (authority : List Char) : Option TargetError :=
  match authority.foldlM AuthorityState.next ⟨0, false, false, false, false⟩ with
  | .error e => some e
  | .ok s =>
    if s.opened != s.closed || 1 < s.colons || s.afterAt || s.percent then some .invalidAuthority else none

/-- An authority is read up to the path behind it. -/
theorem splitAuthority_append (hwithin : ∀ c ∈ authority, Url.Within c) :
    splitAuthority (authority ++ '/' :: tail) =
      match authorityFault? authority with
      | some e => .error e
      | none => .ok (authority, '/' :: tail) := by
  have hall : ∀ c ∈ authority, (!(c == '/' || c == '?' || c == '#')) = true := by
    intro c hc
    have hend := hwithin c hc
    simp only [Url.Within, Url.isAuthorityEnd, Bool.false_and, Bool.or_false] at hend
    rw [hend, Bool.not_false]
  have hstop : ∀ c ∈ ('/' :: tail).head?, (!(c == '/' || c == '?' || c == '#')) = false := by
    rintro c ⟨⟩
    rfl
  simp only [splitAuthority, takeWhile_left hall hstop, dropWhile_left hall hstop, authorityFault?]
  cases authority.foldlM AuthorityState.next ⟨0, false, false, false, false⟩ with
  | error e => rfl
  | ok s => dsimp only; split <;> rfl

/-- A path is read up to the query or fragment behind it, and the query up to the fragment. -/
theorem readPath_append (hpath : ∀ c ∈ path, c ≠ '?' ∧ c ≠ '#') (hquery : ∀ q ∈ u.query, '#' ∉ q)
    (hend : ∀ c ∈ ending.head?, c = '#') :
    readPath (path ++ (u.queryText ++ ending)) =
      if path.all isPathChar && u.query.all (·.all isQueryChar) then .ok (path, u.query)
      else .error .invalidCharacter := by
  have hall : ∀ c ∈ path, (c != '?' && c != '#') = true := by
    intro c hc
    simp [hpath c hc]
  have hstop : ∀ c ∈ (u.queryText ++ ending).head?, (c != '?' && c != '#') = false := by
    intro c hc
    rw [Url.queryText] at hc
    split at hc
    · obtain rfl : '?' = c := Option.some.inj hc
      rfl
    · obtain rfl := hend c hc
      rfl
  simp only [readPath, takeWhile_left hall hstop, List.drop_left]
  cases path.all isPathChar with
  | false => rfl
  | true =>
    cases hq : u.query with
    | none =>
      rw [Url.queryText, hq]
      cases ending with
      | nil => rfl
      | cons c ending =>
        obtain rfl := hend c rfl
        rfl
    | some q =>
      have hbefore : ∀ c ∈ q, (c != '#') = true := by
        intro c hc
        rw [bne_iff_ne]
        rintro rfl
        exact hquery q hq hc
      have hafter : ∀ c ∈ ending.head?, (c != '#') = false := by
        intro c hc
        rw [hend c hc]
        rfl
      rw [Url.queryText, hq]
      simp only [List.cons_append, takeWhile_left hbefore hafter]
      rfl

/-- A text that begins with a letter and has a scheme is read as an address with an authority. -/
theorem read_of_splitScheme {front scheme : List Char} (hcs : cs = 'h' :: front)
    (h : splitScheme cs = .ok (some scheme, rest)) :
    read (String.ofList cs) =
      if maxBytes < (String.ofList cs).utf8ByteSize then .error .tooLong
      else match splitAuthority rest with
        | .error e => .error e
        | .ok (authority, rest) =>
          if authority.isEmpty then .error .invalidFormat
          else match readPath rest with
            | .error e => .error e
            | .ok (path, query) => .ok ⟨some scheme, authority, path, query⟩ := by
  simp only [read, String.toList_ofList]
  split
  · rfl
  -- the text is neither empty nor an asterisk nor a path
  · split
    · cases hcs
    · cases hcs
    · cases hcs
    · rw [h]
      rfl

end Target

namespace Url

variable {u base : Url} {t : Target} {path : List Char} {query : Option (List Char)}

theorem Sound.joined (h : Sound base) : Sound (base.joined path query) := by
  have hmoved : Sound (if (path.dropWhile (· == '/')).isEmpty then base
      else base.withPath (withoutTrailingSlashes base.path ++ '/' :: path.dropWhile (· == '/'))) := by
    split
    · exact h
    · exact h.withPath
  cases query with
  | none => exact hmoved
  | some q => exact hmoved.withQuery

/-- The path of a URL begins with a slash. -/
theorem Sound.exists_path (h : Sound u) : ∃ rest, u.path = '/' :: rest := by
  obtain ⟨s, segments, hs⟩ := List.exists_cons_of_ne_nil h.rooted
  exact ⟨s ++ pathText segments, by simp [Url.path, pathText, hs]⟩

theorem Sound.path_plain (h : Sound u) : ∀ c ∈ u.path, c ≠ '?' ∧ c ≠ '#' := by
  intro c hc
  obtain ⟨s, hm, hc⟩ := List.mem_flatMap.mp hc
  obtain rfl | hc := List.mem_cons.mp hc
  · decide
  · have hplain := ((h.settled s hm).plain c hc).1
    constructor <;> rintro rfl <;> exact absurd hplain (by decide)

/-- The text of a URL is read part by part. -/
theorem Sound.read_text (h : Sound u) : Target.read u.text =
    if Target.maxBytes < u.text.utf8ByteSize then .error .tooLong
    else match Target.authorityFault? u.authorityText with
      | some e => .error e
      | none =>
        if u.authorityText.isEmpty then .error .invalidFormat
        else if u.path.all Target.isPathChar && u.query.all (·.all Target.isQueryChar) then
          .ok ⟨some u.scheme.name.toList, u.authorityText, u.path, u.query⟩
        else .error .invalidCharacter := by
  obtain ⟨ending, hend, hchars⟩ : ∃ ending : List Char, (∀ c ∈ ending.head?, c = '#') ∧
      u.chars = u.scheme.name.toList ++ "://".toList ++
        (u.authorityText ++ (u.path ++ (u.queryText ++ ending))) := by
    cases hf : u.fragment with
    | none => exact ⟨[], nofun, by simp [chars, hf]⟩
    | some f => exact ⟨'#' :: f, fun c hc => (Option.some.inj hc).symm, by simp [chars, hf]⟩
  obtain ⟨tail, hpath⟩ := h.exists_path
  have hscheme : Target.splitScheme u.chars = .ok (some u.scheme.name.toList,
      u.authorityText ++ (u.path ++ (u.queryText ++ ending))) := by
    rw [hchars]
    exact Target.splitScheme_name u.scheme
  have hauthority : Target.splitAuthority (u.authorityText ++ (u.path ++ (u.queryText ++ ending))) =
      match Target.authorityFault? u.authorityText with
      | some e => .error e
      | none => .ok (u.authorityText, u.path ++ (u.queryText ++ ending)) := by
    rw [hpath, List.cons_append]
    exact Target.splitAuthority_append h.authority
  obtain ⟨front, hfront⟩ : ∃ front, u.chars = 'h' :: front := by
    rw [hchars]
    cases u.scheme <;> exact ⟨_, rfl⟩
  rw [text, Target.read_of_splitScheme hfront hscheme, hauthority]
  cases Target.authorityFault? u.authorityText with
  | some e => rfl
  | none =>
    dsimp only
    rw [Target.readPath_append h.path_plain h.query hend]
    cases u.path.all Target.isPathChar && u.query.all (·.all Target.isQueryChar) <;> rfl

/-- Whatever is read of the text of a URL has the scheme, authority, path and query of the URL. -/
theorem Sound.target (h : Sound u) (hread : Target.read u.text = .ok t) :
    t = ⟨some u.scheme.name.toList, u.authorityText, u.path, u.query⟩ := by
  rw [h.read_text] at hread
  split at hread
  · cases hread
  · split at hread
    · cases hread
    · split at hread
      · cases hread
      · split at hread
        · exact (Except.ok.inj hread).symm
        · cases hread

end Url

end MetricsGateway
