import Mathlib.Data.List.Perm.Basic
import MetricsGateway.Proofs.Traffic.Copies
import MetricsGateway.Traffic.Forwards

/-!
The buffers of a proxy while forwards are under way. Main statement: what is free and what open bodies
hold add up to all buffers, and a reply is passed on at once, with a buffer where one is free and without
one otherwise.
-/

namespace MetricsGateway

namespace Proxy

variable {p : Proxy} {pending : Pending} {upstream : Upstream} {path : List Char} {r : Request}
  {frames : List Frame} {answer : Option Bytes} {reply : Reply} {f : Forwarded}

theorem buffered_copy : (p.copy frames).1.buffered = decide (0 < p.buffers.free) :=
  p.buffers.fst_take

theorem held_copy :
    (p.copy frames).2.buffers.held = p.buffers.held + (p.copy frames).1.buffered.toNat :=
  p.buffers.held_take

theorem size_copy : (p.copy frames).2.buffers.size = p.buffers.size :=
  p.buffers.size_take

/-- A reply that can be read is passed on. -/
theorem finish_of_reply (h : answer.bind (Reply.read? pending.sent.method) = some reply) :
    (p.finish pending answer).1.response.body = (p.copy reply.frames).1 ∧
      (p.finish pending answer).2 = (p.copy reply.frames).2 := by
  simp only [finish, h, and_self]

theorem finish_of_no_reply (h : answer.bind (Reply.read? pending.sent.method) = none) :
    (p.finish pending answer).1.response.status = 502 ∧
      (p.finish pending answer).1.response.body.buffered = false ∧ (p.finish pending answer).2 = p := by
  simp only [finish, h, and_true]
  exact ⟨rfl, rfl⟩

theorem start_refused (h : p.start upstream path r = .error f) :
    f.response.status = 502 ∧ f.response.body.buffered = false := by
  unfold start at h
  split at h
  · obtain rfl := Except.error.inj h
    exact ⟨rfl, rfl⟩
  · cases h

theorem held_finish : (p.finish pending answer).2.buffers.held =
    p.buffers.held + (p.finish pending answer).1.response.body.buffered.toNat := by
  cases h : answer.bind (Reply.read? pending.sent.method) with
  | none =>
    obtain ⟨-, hbody, hproxy⟩ := finish_of_no_reply (p := p) h
    rw [hbody, hproxy]
    rfl
  | some reply =>
    obtain ⟨hbody, hproxy⟩ := finish_of_reply (p := p) h
    rw [hbody, hproxy, held_copy]

theorem size_finish : (p.finish pending answer).2.buffers.size = p.buffers.size := by
  cases h : answer.bind (Reply.read? pending.sent.method) with
  | none => rw [(finish_of_no_reply h).2.2]
  | some reply => rw [(finish_of_reply h).2, size_copy]

theorem held_dropped (b : Body) :
    (p.dropped b).buffers.held = p.buffers.held - b.buffered.toNat := by
  unfold dropped
  cases b.buffered <;> rfl

theorem size_dropped (b : Body) : (p.dropped b).buffers.size = p.buffers.size := by
  unfold dropped
  split <;> rfl

end Proxy

def OpenBody.holds (b : OpenBody) : Bool := b.body.buffered

@[simp] theorem OpenBody.holds_next (b : OpenBody) : b.next.holds = b.holds := rfl

namespace Forwards

variable {o : ProxyOptions} {s s' : Forwards} {m : ForwardMove} {moves : List ForwardMove}
  {report : ForwardReport} {reports : List ForwardReport}

/-- How many open bodies hold a buffer. -/
def holding (s : Forwards) : Nat := s.bodies.countP OpenBody.holds

theorem holding_respond {f : Forwarded} :
    (s.respond f).2.holding = s.holding + f.response.body.buffered.toNat := by
  have hbodies : (s.respond f).2.bodies = s.bodies ++ [⟨f.response.body, 0⟩] := rfl
  rw [holding, hbodies, List.countP_append, holding, List.countP_singleton, OpenBody.holds]
  cases f.response.body.buffered <;> rfl

/-- What open bodies hold is what one of them holds and what the others do. -/
theorem holding_of_body {i : Nat} {b : OpenBody} (h : s.bodies[i]? = some b) :
    s.holding = (s.bodies.eraseIdx i).countP OpenBody.holds + b.holds.toNat := by
  obtain ⟨hi, rfl⟩ := List.getElem?_eq_some_iff.mp h
  have hperm := (List.getElem_cons_eraseIdx_perm hi).countP_eq OpenBody.holds
  rw [List.countP_cons] at hperm
  rw [holding, ← hperm]
  cases s.bodies[i].holds <;> rfl

theorem move?_answer {i : Nat} {pending : Pending} {bytes : Option Bytes}
    (h : s.pending[i]? = some pending) : s.move? (.answer i bytes) =
      some (respond { s with proxy := (s.proxy.finish pending bytes).2, pending := s.pending.eraseIdx i }
        (s.proxy.finish pending bytes).1) := by
  rw [move?, h]
  rfl

/-- The buffers that are lent are those that open bodies hold. -/
structure Accounted (count : Nat) (s : Forwards) : Prop where
  size_eq : s.proxy.buffers.size = count
  held_eq : s.proxy.buffers.held = s.holding

namespace Accounted

variable {count : Nat}

theorem new : Accounted o.bufferCount (new o) := ⟨rfl, rfl⟩

theorem free_add_holding (a : Accounted count s) : s.proxy.buffers.free + s.holding = count := by
  rw [← a.held_eq, ← a.size_eq]
  exact s.proxy.buffers.free_add_held

/-- A response takes along the buffer that its body holds. -/
theorem respond {f : Forwarded} {proxy : Proxy} {pending : List Pending} (a : Accounted count s)
    (hsize : proxy.buffers.size = s.proxy.buffers.size)
    (hheld : proxy.buffers.held = s.proxy.buffers.held + f.response.body.buffered.toNat) :
    Accounted count (Forwards.respond { s with proxy, pending } f).2 := by
  refine ⟨hsize.trans a.size_eq, ?_⟩
  rw [holding_respond]
  exact hheld.trans (congrArg (· + _) a.held_eq)

theorem read {i : Nat} {b : OpenBody} (a : Accounted count s) (h : s.bodies[i]? = some b) :
    Accounted count { s with bodies := s.bodies.set i b.next } := by
  refine ⟨a.size_eq, a.held_eq.trans ?_⟩
  obtain ⟨hi, rfl⟩ := List.getElem?_eq_some_iff.mp h
  have hperm := (List.set_perm_cons_eraseIdx hi s.bodies[i].next).countP_eq OpenBody.holds
  have hperm' := (List.getElem_cons_eraseIdx_perm hi).countP_eq OpenBody.holds
  rw [List.countP_cons] at hperm hperm'
  change s.bodies.countP OpenBody.holds = (s.bodies.set i s.bodies[i].next).countP OpenBody.holds
  rw [hperm, ← hperm', OpenBody.holds_next]

/-- A body that is dropped gives back the buffer that it holds. -/
theorem drop {i : Nat} {b : OpenBody} (a : Accounted count s) (h : s.bodies[i]? = some b) :
    Accounted count { s with proxy := s.proxy.dropped b.body, bodies := s.bodies.eraseIdx i } := by
  refine ⟨(Proxy.size_dropped b.body).trans a.size_eq, ?_⟩
  change (s.proxy.dropped b.body).buffers.held = (s.bodies.eraseIdx i).countP OpenBody.holds
  rw [Proxy.held_dropped, a.held_eq, holding_of_body h]
  exact Nat.add_sub_cancel ..

theorem step (a : Accounted count s) (h : s.move? m = some (report, s')) : Accounted count s' := by
  cases m with
  | begin upstream path r =>
    simp only [move?] at h
    split at h
    · next f hstart =>
      obtain ⟨-, rfl⟩ := Prod.mk.inj (Option.some.inj h)
      have hbody := (Proxy.start_refused hstart).2
      exact a.respond rfl (by simp [hbody])
    · obtain ⟨-, rfl⟩ := Prod.mk.inj (Option.some.inj h)
      exact ⟨a.size_eq, a.held_eq⟩
  | answer i bytes =>
    obtain ⟨pending, -, heq⟩ := Option.map_eq_some_iff.mp h
    obtain ⟨-, rfl⟩ := Prod.mk.inj heq
    exact a.respond Proxy.size_finish Proxy.held_finish
  | giveUp i =>
    obtain ⟨pending, -, heq⟩ := Option.map_eq_some_iff.mp h
    obtain ⟨-, rfl⟩ := Prod.mk.inj heq
    exact ⟨a.size_eq, a.held_eq⟩
  | read i =>
    obtain ⟨b, hb, heq⟩ := Option.map_eq_some_iff.mp h
    obtain ⟨-, rfl⟩ := Prod.mk.inj heq
    exact a.read hb
  | drop i =>
    obtain ⟨b, hb, heq⟩ := Option.map_eq_some_iff.mp h
    obtain ⟨-, rfl⟩ := Prod.mk.inj heq
    exact a.drop hb

end Accounted

theorem accounted_of_run (h : (new o).run? moves = some (reports, s)) : Accounted o.bufferCount s :=
  History.run?_induction (P := fun _ _ s => Accounted o.bufferCount s) .new
    (fun _ _ _ _ _ _ _ a hstep => a.step hstep) h

/-- A forward from its beginning to its end is a run of moves. -/
theorem forward_of_moves (s : Forwards) (contact : Contact) (upstream : Upstream) (path : List Char)
    (r : Request) : ∃ moves reports f s',
      s.run? (.begin upstream path r :: moves) = some (reports ++ [.responds f], s') ∧
        f.response = (s.proxy.forward contact upstream path r).1.response ∧
        s'.proxy = (s.proxy.forward contact upstream path r).2.2 ∧ s'.pending = s.pending := by
  cases hstart : s.proxy.start upstream path r with
  | error f =>
    refine ⟨[], [], f, (s.respond f).2, History.run?_single (by simp only [move?, hstart]; rfl), ?_⟩
    simp only [Proxy.forward, hstart, true_and]
    exact ⟨rfl, rfl⟩
  | ok started =>
    obtain ⟨pending, records⟩ := started
    let answer := pending.sent.onWire?.bind fun _ => contact pending.sent
    have hbegin : s.move? (.begin upstream path r) =
        some (.waits pending, { s with pending := s.pending ++ [pending] }) := by
      simp only [move?, hstart]
    have hanswer : move? { s with pending := s.pending ++ [pending] } (.answer s.pending.length answer) =
        _ := move?_answer (List.getElem?_concat_length ..)
    rw [List.eraseIdx_append_of_length_le (Nat.le_refl _), Nat.sub_self] at hanswer
    refine ⟨[.answer s.pending.length answer], [.waits pending], (s.proxy.finish pending answer).1, _,
      History.run?_cons.mpr ⟨_, _, _, hbegin, History.run?_single hanswer, rfl⟩, ?_⟩
    simp only [Proxy.forward, hstart]
    exact ⟨rfl, rfl, List.append_nil _⟩

/-! ## No waiting -/

theorem exists_begin (upstream : Upstream) (path : List Char) (r : Request) :
    ∃ report s', s.move? (.begin upstream path r) = some (report, s') ∧
      s'.proxy = s.proxy ∧ s'.holding = s.holding ∧
      ∀ f, report = .responds f → f.response.status = 502 ∧ f.response.body.buffered = false := by
  cases hstart : s.proxy.start upstream path r with
  | error f =>
    obtain ⟨hstatus, hbody⟩ := Proxy.start_refused hstart
    refine ⟨.responds f, (s.respond f).2, by simp only [move?, hstart]; rfl, rfl, ?_, ?_⟩
    · rw [holding_respond, hbody]
      rfl
    · rintro _ ⟨⟩
      exact ⟨hstatus, hbody⟩
  | ok started =>
    exact ⟨.waits started.1, { s with pending := s.pending ++ [started.1] },
      by simp only [move?, hstart], rfl, rfl, nofun⟩

section Respond

variable {pending : Pending} {rest : List Pending} {bytes : Option Bytes} {reply : Reply}

theorem respond_of_reply (h : bytes.bind (Reply.read? pending.sent.method) = some reply) :
    let f := (s.proxy.finish pending bytes).1
    f.response.body.buffered = decide (0 < s.proxy.buffers.free) ∧
      (respond { s with proxy := (s.proxy.finish pending bytes).2, pending := rest } f).2.holding =
        s.holding + f.response.body.buffered.toNat ∧
      Frame.bytes f.response.body.frames = Frame.bytes reply.frames := by
  have hbody := (Proxy.finish_of_reply (p := s.proxy) h).1
  refine ⟨?_, holding_respond, ?_⟩
  · rw [hbody, Proxy.buffered_copy]
  · rw [hbody]
    exact Frame.bytes_passedOn _ _

theorem respond_of_no_reply (h : bytes.bind (Reply.read? pending.sent.method) = none) :
    let f := (s.proxy.finish pending bytes).1
    let s' := (respond { s with proxy := (s.proxy.finish pending bytes).2, pending := rest } f).2
    f.response.status = 502 ∧ f.response.body.buffered = false ∧ s'.proxy = s.proxy ∧
      s'.holding = s.holding := by
  obtain ⟨hstatus, hbody, hproxy⟩ := Proxy.finish_of_no_reply (p := s.proxy) h
  refine ⟨hstatus, hbody, hproxy, holding_respond.trans ?_⟩
  rw [hbody]
  rfl

end Respond

/-- A body can be dropped at any time, and the buffer that it held is free at once. -/
theorem Accounted.exists_drop {count i : Nat} {b : OpenBody} (a : Accounted count s)
    (h : s.bodies[i]? = some b) : ∃ s', s.move? (.drop i) = some (.silent, s') ∧
      s'.bodies = s.bodies.eraseIdx i ∧ s'.pending = s.pending ∧
      s'.proxy.buffers.free = s.proxy.buffers.free + b.holds.toNat := by
  refine ⟨{ s with proxy := s.proxy.dropped b.body, bodies := s.bodies.eraseIdx i },
    by rw [move?, h]; rfl, rfl, rfl, ?_⟩
  have hbefore : s.proxy.buffers.free + s.holding = count := a.free_add_holding
  have hafter : (s.proxy.dropped b.body).buffers.free +
    (s.bodies.eraseIdx i).countP OpenBody.holds = count := (a.drop h).free_add_holding
  rw [holding_of_body h] at hbefore
  change (s.proxy.dropped b.body).buffers.free = s.proxy.buffers.free + b.holds.toNat
  omega

/-- However forwards and the reading and dropping of bodies follow on each other: the free buffers and
those that open bodies hold are all there are. No forward waits for a buffer: it begins, and it responds
to whatever its upstream answers, at any time. A reply takes a buffer exactly when one is free, and its
body has the same bytes with and without; an address that is none and an answer that is no reply take no
buffer. A body that is dropped is gone, and the buffer that it held is free. Once no body is open, all
buffers are free. -/
theorem buffers_add_up (h : (new o).run? moves = some (reports, s)) :
    s.proxy.buffers.free + s.holding = o.bufferCount ∧
    (∀ upstream path r, ∃ report s', s.move? (.begin upstream path r) = some (report, s') ∧
      s'.proxy = s.proxy ∧ s'.holding = s.holding ∧
      ∀ f, report = .responds f → f.response.status = 502 ∧ f.response.body.buffered = false) ∧
    (∀ (i : Nat) pending bytes, s.pending[i]? = some pending →
      ∃ f s', s.move? (.answer i bytes) = some (.responds f, s') ∧
        (∀ reply, bytes.bind (Reply.read? pending.sent.method) = some reply →
          f.response.body.buffered = decide (0 < s.proxy.buffers.free) ∧
          s'.holding = s.holding + f.response.body.buffered.toNat ∧
          Frame.bytes f.response.body.frames = Frame.bytes reply.frames) ∧
        (bytes.bind (Reply.read? pending.sent.method) = none →
          f.response.status = 502 ∧ f.response.body.buffered = false ∧
          s'.proxy = s.proxy ∧ s'.holding = s.holding)) ∧
    (∀ (i : Nat) b, s.bodies[i]? = some b → ∃ s', s.move? (.drop i) = some (.silent, s') ∧
      s'.bodies = s.bodies.eraseIdx i ∧ s'.pending = s.pending ∧
      s'.proxy.buffers.free = s.proxy.buffers.free + b.holds.toNat) ∧
    (s.bodies = [] → s.proxy.buffers.free = o.bufferCount) := by
  have a : Accounted o.bufferCount s := accounted_of_run h
  refine ⟨a.free_add_holding, exists_begin, fun i pending bytes hi => ?_, fun i b hb => a.exists_drop hb,
    fun hnone => ?_⟩
  · exact ⟨_, _, move?_answer hi, fun reply hreply => respond_of_reply hreply,
      fun hnone => respond_of_no_reply hnone⟩
  · have hzero : s.holding = 0 := by
      rw [holding, hnone]
      rfl
    have hfree := a.free_add_holding
    omega

/-- A proxy with one buffer in front of one host. -/
def lone : ProxyOptions :=
  let upstream : Url := ⟨.http, [], [], .domain "thanos".toList, none, [[]], none, none⟩
  ⟨upstream, upstream, 1, 4⟩

/-- Two replies come in at once: the first one takes the buffer, and the second one goes without. -/
def crowded : List ForwardMove :=
  let r : Request := ⟨"GET", ⟨none, [], "/api/metrics/v1/up".toList, none⟩, [], [], false⟩
  let reply := Text.utf8String "HTTP/1.1 200 OK\r\ncontent-length: 6\r\n\r\nresult"
  [.begin .query "up".toList r, .begin .write [] r, .answer 1 (some reply), .answer 0 (some reply), .read 1]

/-- Its buffer is free again once the first body is dropped. -/
theorem buffers_of_crowded : ∃ reports s, (new lone).run? crowded = some (reports, s) ∧
    s.bodies.map OpenBody.holds = [true, false] ∧ s.holding = 1 ∧ s.proxy.buffers.free + 1 = 1 ∧
    ∃ s', s.move? (.drop 0) = some (.silent, s') ∧ s'.bodies = s.bodies.tail ∧
      s'.proxy.buffers.free = 1 := by
  have hrun : ((new lone).run? crowded).map (·.2.bodies.map OpenBody.holds) = some [true, false] := by
    decide +kernel
  obtain ⟨⟨reports, s⟩, h, hholds⟩ := Option.map_eq_some_iff.mp hrun
  have hone : s.holding = 1 := by
    have hcount : (s.bodies.map OpenBody.holds).countP id = s.holding := List.countP_map
    rw [← hcount, hholds]
    rfl
  obtain ⟨hadd, -, -, hdrop, -⟩ := buffers_add_up h
  rw [hone] at hadd
  obtain ⟨first, rest, hbodies, hfirst, -⟩ := List.map_eq_cons_iff.mp hholds
  obtain ⟨s', hmove, hgone, -, hfree⟩ := hdrop 0 first (by rw [hbodies]; rfl)
  have hnone : s.proxy.buffers.free = 0 := Nat.succ.inj hadd
  rw [hnone, hfirst] at hfree
  exact ⟨reports, s, h, hholds, hone, hadd, s', hmove, by rw [hgone, List.eraseIdx_zero], hfree⟩

end Forwards

end MetricsGateway
