import MetricsGateway.Proofs.Text.Composed
import MetricsGateway.Proofs.Url.ForwardedTarget
import MetricsGateway.Proofs.Url.RereadAuthority
import MetricsGateway.Setup.Validation

/-!
Endpoints that requests can be forwarded to. What a URL writes of its path and its query is read again whatever
they are, so of an accepted endpoint only the name of the host matters.

Main statement: `MetricsGateway.targetOf_of_readEndpoint`.
-/

namespace MetricsGateway

open Text

namespace Url

variable {u base : Url} {cs path : List Char} {query : Option (List Char)}

/-! ## Paths and queries -/

theorem Sound.all_isPathChar (h : Sound u) : u.path.all Target.isPathChar = true := by
  refine List.all_eq_true.mpr fun c hc => ?_
  obtain ⟨s, hm, hc⟩ := List.mem_flatMap.mp hc
  obtain rfl | hc := List.mem_cons.mp hc
  · rfl
  · exact Percent.forall_plain (p := (Target.isPathChar · = true))
      (fun c h => by simp [Percent.inPath, Percent.inFragment, h]) (by decide +kernel)
      ((h.settled s hm).plain c hc).1

theorem all_isQueryChar_encode : (Percent.encode Percent.inQuery cs).all Target.isQueryChar = true := by
  refine List.all_eq_true.mpr (Percent.forall_mem_encode (by decide) (by decide) fun c _ hplain => ?_)
  exact Percent.forall_plain (p := (Target.isQueryChar · = true))
    (fun c h => by simp [Percent.inQuery, h]) (by decide +kernel) hplain

theorem OfParts.all_isQueryChar_joined (h : OfParts base) :
    (base.joined path query).query.all (·.all Target.isQueryChar) = true := by
  cases query with
  | some q => exact all_isQueryChar_encode
  | none =>
    obtain ⟨text, hquery⟩ := h.query
    rw [joined_query_none, hquery, splitQuery]
    split
    · exact all_isQueryChar_encode
    · rfl

/-- Of a URL with these parts the name of the host alone decides whether its text is a target. -/
theorem OfParts.targetOf_eq (h : OfParts base) :
    targetOf base path query =
      if Target.maxBytes < (base.joined path query).text.utf8ByteSize then .error .tooLong
      else if base.host.text.toList.any Target.awkward.contains then .error .invalidCharacter
      else .ok ⟨some base.scheme.name.toList, base.authorityText, (base.joined path query).path,
        (base.joined path query).query⟩ := by
  have hsound : Sound (base.joined path query) := h.sound.joined
  have hauthority : base.authorityText.isEmpty = false :=
    List.isEmpty_eq_false_iff.mpr h.authorityText_ne_nil
  rw [targetOf, hsound.read_text, joined_authorityText, joined_scheme, h.authorityFault?, hauthority,
    hsound.all_isPathChar, h.all_isQueryChar_joined]
  cases base.host.text.toList.any Target.awkward.contains <;> rfl

end Url

/-! ## Endpoints -/

variable {base : Url} {path : List Char} {query : Option (List Char)} {raw : String}

theorem read_of_readEndpoint (h : readEndpoint raw = .ok base) : Url.read raw = .ok base := by
  rw [readEndpoint] at h
  split at h
  · cases h
  · split at h
    · next hread => rw [hread, Except.ok.inj h]
    · cases h

/-- Requests can be forwarded to an endpoint that is accepted, with every path and every query for which the
address is not too long, unless the name of its host holds one of four characters. Then none can. -/
theorem targetOf_of_readEndpoint (hread : readEndpoint raw = .ok base) (path : List Char)
    (query : Option (List Char)) :
    targetOf base path query =
      if Target.maxBytes < (base.joined path query).text.utf8ByteSize then .error .tooLong
      else if base.host.text.toList.any Target.awkward.contains then .error .invalidCharacter
      else .ok ⟨some base.scheme.name.toList, base.authorityText, (base.joined path query).path,
        (base.joined path query).query⟩ :=
  (Url.ofParts_of_read (read_of_readEndpoint hread)).targetOf_eq

theorem targetOf_of_readEndpoint_ipv6 : ∃ base,
    readEndpoint "http://me:pass@[2001:db8::7]:9090/api?from=1" = .ok base ∧
      targetOf base "a b".toList none =
        .ok ⟨some "http".toList, "me:pass@[2001:db8::7]:9090".toList, "/api/a%20b".toList,
          some "from=1".toList⟩ := by
  have hread : readEndpoint "http://me:pass@[2001:db8::7]:9090/api?from=1" = .ok ⟨.http, "me".toList,
      "pass".toList, .ipv6 [0x2001, 0xdb8, 0, 0, 0, 0, 0, 7], some 9090, ["api".toList], some "from=1".toList,
      none⟩ := by rfl
  refine ⟨_, hread, (targetOf_of_readEndpoint hread _ _).trans ?_⟩
  rw [if_neg (by decide +kernel), if_neg (by decide +kernel)]
  rfl

/-! ## An endpoint that is no target -/

namespace Domain

variable {domain mapped : List Char}

/-- A domain whose characters become ASCII is not composed any further. -/
theorem toAscii?_of_ascii (hmapped : DomainMapping.applyAll? domain = some mapped)
    (hascii : ∀ c ∈ mapped, c.toNat < 0x80) : toAscii? domain =
      ((splitOnChar '.' mapped).mapM Label.read?).bind fun labels =>
        if isOrdered labels && (List.intercalate ['.'] (labels.map (·.plain))).all isPlain then
          some (List.intercalate ['.'] (labels.map (·.plain)))
        else none := by
  rw [toAscii?, hmapped]
  simp only [Option.bind_eq_bind, Option.bind_some, Composition.composed_of_ascii hascii]

end Domain

namespace Url

variable {cs text domain name rest : List Char} {scheme : Scheme} {host : Host}

theorem readHost_of_toAscii? (hcs : cs.head? ≠ some '[')
    (htext : ofUtf8? (Percent.decode (utf8 cs)) = some text) (hdomain : Domain.toAscii? text = some domain)
    (hne : domain ≠ []) (hnumber : Address.endsInNumber domain = false) :
    readHost cs = .ok (.domain domain) := by
  rw [readHost.eq_def]
  split
  · exact absurd rfl hcs
  · rw [htext, Option.bind_some, hdomain]
    split
    · next h => cases h
    · next h => exact absurd (Option.some.inj h) hne
    · next h =>
      obtain rfl := Option.some.inj h
      rw [hnumber]
      rfl

/-- Neither user information nor a port. -/
theorem readHierarchy_of_host (hinfo : splitUserInfo true cs = .ok ([], cs))
    (hsplit : splitHost true false cs = (name, '/' :: rest)) (hne : name.isEmpty = false)
    (hhost : readHost name = .ok host) :
    readHierarchy scheme cs =
      .ok { scheme, username := [], password := [], host, port := none
            segments := segmentsOf (splitQuery (splitFragment ('/' :: rest)).1).1
            query := (splitQuery (splitFragment ('/' :: rest)).1).2
            fragment := (splitFragment ('/' :: rest)).2 } := by
  simp only [readHierarchy, hinfo, hsplit, hne, hhost, bind, Except.bind, pure, Except.pure]
  rfl

theorem read_http (hcs : ((((raw.toList.dropWhile isTrimmed).reverse.dropWhile isTrimmed).reverse).filter
      (!isSkipped ·)) = cs)
    (hscheme : splitScheme? cs = some ("http".toList, rest)) :
    read raw = readHierarchy .http (rest.dropWhile fun c => c == '/' || c == '\\') := by
  rw [read]
  dsimp only
  rw [hcs, hscheme]
  rfl

end Url

/-- An endpoint whose host is the name of a template that was not filled in is accepted, but no request can be
forwarded to it. -/
theorem endpoint_without_target : ∃ base, readEndpoint "http://\x7bhost\x7d/" = .ok base ∧
    (base.joined "x".toList none).text.utf8ByteSize ≤ Target.maxBytes ∧
    targetOf base "x".toList none = .error .invalidCharacter ∧
    ∀ path query t, targetOf base path query ≠ .ok t := by
  have hmapped : DomainMapping.applyAll? "\x7bhost\x7d".toList = some "\x7bhost\x7d".toList := by decide +kernel
  have hascii : "\x7bhost\x7d".toList.all (·.toNat < 0x80) = true := by decide +kernel
  have hdomain : Domain.toAscii? "\x7bhost\x7d".toList = some "\x7bhost\x7d".toList := by
    refine (Domain.toAscii?_of_ascii hmapped fun c hc => ?_).trans (by decide +kernel)
    exact of_decide_eq_true (List.all_eq_true.mp hascii c hc)
  have hhost : Url.readHost "\x7bhost\x7d".toList = .ok (.domain "\x7bhost\x7d".toList) :=
    Url.readHost_of_toAscii? (by decide) (by decide +kernel) hdomain (by decide) (by decide +kernel)
  have hread : Url.read "http://\x7bhost\x7d/" =
      .ok ⟨.http, [], [], .domain "\x7bhost\x7d".toList, none, [[]], none, none⟩ := by
    have hscheme : Url.splitScheme? "http://\x7bhost\x7d/".toList =
        some ("http".toList, "//\x7bhost\x7d/".toList) := by decide +kernel
    have hrest : ("//\x7bhost\x7d/".toList.dropWhile fun c => c == '/' || c == '\\') =
        "\x7bhost\x7d/".toList := by decide +kernel
    have hinfo : Url.splitUserInfo true "\x7bhost\x7d/".toList = .ok ([], "\x7bhost\x7d/".toList) := by
      decide +kernel
    have hsplit : Url.splitHost true false "\x7bhost\x7d/".toList = ("\x7bhost\x7d".toList, ['/']) := by
      decide +kernel
    rw [Url.read_http (by decide +kernel) hscheme, hrest,
      Url.readHierarchy_of_host hinfo hsplit (by decide) hhost]
    rfl
  have hparts := Url.ofParts_of_read hread
  have hawkward : (Host.domain "\x7bhost\x7d".toList).text.toList.any Target.awkward.contains = true := by decide
  refine ⟨_, by rw [readEndpoint, hread]; rfl, by decide +kernel, ?_, fun path query t htarget => ?_⟩
  · rw [hparts.targetOf_eq, if_neg (by decide +kernel), if_pos hawkward]
  · rw [hparts.targetOf_eq, if_pos hawkward] at htarget
    split at htarget <;> cases htarget

end MetricsGateway
