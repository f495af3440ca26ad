import MetricsGateway.Proofs.Number.Unsigned
import MetricsGateway.Proofs.Text.Cuts
import MetricsGateway.Setup.ListenAddress

/-!
The address to listen on, as it is checked. Main statement: what is accepted is a host and a port, all interfaces
if only a port is given, and is accepted as it is when it is checked again. Of the host only that it is there is
known.
-/

namespace MetricsGateway.ListenAddress

open Number

variable {raw l : String} {cs host port : List Char}

theorem expanded_shorthand : expanded (':' :: port) = "0.0.0.0".toList ++ ':' :: port := rfl

theorem count_colon_anyHost : "0.0.0.0".toList.count ':' = 0 := by decide

theorem expanded_of_head (h : cs.head? ≠ some ':') : expanded cs = cs := by
  unfold expanded
  split
  · exact absurd rfl h
  · rfl

theorem head_expanded (cs : List Char) : (expanded cs).head? ≠ some ':' := by
  unfold expanded
  split
  · simp
  · next h =>
    intro hhead
    obtain ⟨rest, rfl⟩ := List.head?_eq_some_iff.mp hhead
    exact h rest rfl

/-- No port has a colon. -/
theorem colon_not_mem {n : Nat} (h : Unsigned port n) : ':' ∉ port := fun hm =>
  absurd (h.chars ':' hm) (by decide)

/-- What is cut off an address that is written out leaves a host. -/
theorem host_ne_nil (h : Text.splitLast ':' (expanded cs) = some (host, port)) : host ≠ [] := by
  rintro rfl
  exact head_expanded cs (by rw [Text.eq_of_splitLast h]; rfl)

/-- No address is refused for want of a host: where there is none, that of all interfaces stands. -/
theorem read_ne_missingHost (raw named : String) : read raw ≠ .error (.missingHost named) := by
  intro h
  simp only [read] at h
  split at h
  · cases h
  · next host port hcut =>
    rw [if_neg (mt List.isEmpty_iff.mp (host_ne_nil hcut))] at h
    split at h <;> cases h

/-- Accepted is what ends with a colon and a port when it is written out. -/
theorem read_eq_ok_iff : read raw = .ok l ↔ l.toList = expanded raw.toList ∧
    ∃ host port n, l.toList = host ++ ':' :: port ∧ Unsigned port n ∧ n < 65536 := by
  constructor
  · intro h
    simp only [read] at h
    split at h
    · cases h
    · next host port hcut =>
      rw [if_neg (mt List.isEmpty_iff.mp (host_ne_nil hcut))] at h
      split at h
      · next n hport =>
        cases h
        obtain ⟨hwritten, hlt⟩ := readUnsigned_eq_ok_iff.mp hport
        rw [String.toList_ofList]
        exact ⟨rfl, host, port, n, Text.eq_of_splitLast hcut, hwritten, hlt⟩
      · cases h
  · rintro ⟨hl, host, port, n, hcut, hwritten, hlt⟩
    have hsplit : Text.splitLast ':' (expanded raw.toList) = some (host, port) := by
      rw [← hl, hcut]
      exact Text.splitLast_append (colon_not_mem hwritten)
    have hport : readUnsigned 65536 port = .ok n := readUnsigned_eq_ok_iff.mpr ⟨hwritten, hlt⟩
    have hhost : ¬ host.isEmpty := mt List.isEmpty_iff.mp (host_ne_nil hsplit)
    simp only [read, hsplit, if_neg hhost, hport]
    rw [← hl, String.ofList_toList]

/-- With one colon in all there is none in the host. -/
theorem colon_not_mem_host (hl : l.toList = expanded raw.toList) (hcut : l.toList = host ++ ':' :: port)
    (hone : raw.toList.count ':' ≤ 1) : ':' ∉ host := by
  have hcount : l.toList.count ':' ≤ 1 := by
    rw [hl]
    by_cases hhead : raw.toList.head? = some ':'
    · obtain ⟨rest, hraw⟩ := List.head?_eq_some_iff.mp hhead
      rw [hraw, List.count_cons_self] at hone
      rw [hraw, expanded_shorthand, List.count_append, List.count_cons_self, count_colon_anyHost, Nat.zero_add]
      exact hone
    · rwa [expanded_of_head hhead]
  rw [hcut, List.count_append, List.count_cons_self] at hcount
  exact List.count_eq_zero.mp (by omega)

/-- What an accepted address looks like. It is cut at its last colon into a host, which is not looked at any
further, and a port. A lone port has the host of all interfaces put before it, any other address stays as it
is. -/
theorem host_and_port_of_read (h : read raw = .ok l) :
    (∃ host port n, l.toList = host ++ ':' :: port ∧ Unsigned port n ∧ n < 65536 ∧ host ≠ [] ∧
      (raw.toList.count ':' ≤ 1 → ':' ∉ host) ∧
      ∀ rest, raw.toList = ':' :: rest → ':' ∉ rest → rest = port ∧ host = "0.0.0.0".toList) ∧
    (raw.toList.head? ≠ some ':' → l = raw) ∧
    read l = .ok l := by
  obtain ⟨hl, host, port, n, hcut, hwritten, hlt⟩ := read_eq_ok_iff.mp h
  have hhead : l.toList.head? ≠ some ':' := hl ▸ head_expanded raw.toList
  refine ⟨⟨host, port, n, hcut, hwritten, hlt, ?_, colon_not_mem_host hl hcut, ?_⟩, fun hraw => ?_, ?_⟩
  · rintro rfl
    exact hhead (by rw [hcut]; rfl)
  · intro rest hraw hrest
    have hlong : l.toList = "0.0.0.0".toList ++ ':' :: rest := by
      rw [hl, hraw, expanded_shorthand]
    have hsame : Text.splitLast ':' (host ++ ':' :: port) = some (host, port) :=
      Text.splitLast_append (colon_not_mem hwritten)
    rw [← hcut, hlong, Text.splitLast_append hrest] at hsame
    obtain ⟨hhost, hport⟩ := Prod.mk.inj (Option.some.inj hsame)
    exact ⟨hport, hhost.symm⟩
  · rw [expanded_of_head hraw] at hl
    exact String.toList_inj.mp hl
  · exact read_eq_ok_iff.mpr ⟨(expanded_of_head hhead).symm, host, port, n, hcut, hwritten, hlt⟩

theorem host_and_port_of_shorthand :
    read ":9091" = .ok "0.0.0.0:9091" ∧ read "0.0.0.0:9091" = .ok "0.0.0.0:9091" := by
  have h : read ":9091" = .ok "0.0.0.0:9091" := by decide
  exact ⟨h, (host_and_port_of_read h).2.2⟩

/-- An IPv6 host is accepted without brackets. -/
theorem read_unbracketed_host : read "fe80::1:80" = .ok "fe80::1:80" ∧
    ¬ ∃ host port n, "fe80::1:80".toList = host ++ ':' :: port ∧ Unsigned port n ∧
      (':' ∉ host ∨ ∃ literal, host = '[' :: (literal ++ [']'])) := by
  refine ⟨by decide, ?_⟩
  rintro ⟨host, port, n, hcut, hwritten, hhost⟩
  have hsplit : Text.splitLast ':' (host ++ ':' :: port) = some (host, port) :=
    Text.splitLast_append (colon_not_mem hwritten)
  have hlast : Text.splitLast ':' "fe80::1:80".toList = some ("fe80::1".toList, "80".toList) := by decide
  rw [← hcut, hlast] at hsplit
  obtain ⟨rfl, -⟩ := Prod.mk.inj (Option.some.inj hsplit)
  obtain hcolon | ⟨literal, hliteral⟩ := hhost
  · exact hcolon (by decide)
  · cases hliteral

end MetricsGateway.ListenAddress
