import MetricsGateway.Telemetry.SpanHandles

/-!
What never changes about spans once they are made: their kinds, parents and contexts. Whatever is done
with spans adds further ones at most, and what a new one takes over from its parent stays the same.
-/

namespace MetricsGateway

variable {i now : Nat}

/-- A span without what changes in the course of its life. -/
def SpanNode.outline (n : SpanNode) : SpanNode := { n with holds := 0, attributes := [] }

namespace SpanForest

variable {f g : SpanForest}

/-- What never changes about the spans, and the settings. -/
def outline (f : SpanForest) : SpanForest :=
  { f with nodes := f.nodes.map SpanNode.outline, entered := [] }

theorem map_outline_modify {nodes : List SpanNode} {change : SpanNode → SpanNode}
    (h : ∀ n, (change n).outline = n.outline) :
    (nodes.modify i change).map SpanNode.outline = nodes.map SpanNode.outline := by
  apply List.ext_getElem?
  intro j
  rw [List.getElem?_map, List.getElem?_map, List.getElem?_modify]
  cases nodes[j]? with
  | none => rfl
  | some n =>
    by_cases hij : i = j
    · simp [hij, h]
    · simp [hij]

theorem map_outline_set {nodes : List SpanNode} {n m : SpanNode} (hn : nodes[i]? = some n)
    (h : m.outline = n.outline) :
    (nodes.set i m).map SpanNode.outline = nodes.map SpanNode.outline := by
  apply List.ext_getElem?
  intro j
  rw [List.getElem?_map, List.getElem?_map, List.getElem?_set]
  by_cases hij : i = j
  · subst j
    rw [if_pos rfl, if_pos (List.getElem?_eq_some_iff.mp hn).1, hn]
    exact congrArg some h
  · simp [hij]

@[simp] theorem outline_hold : (f.hold i).outline = f.outline := by
  have hm : (f.nodes.modify i fun n => { n with holds := n.holds + 1 }).map SpanNode.outline =
      f.nodes.map SpanNode.outline := map_outline_modify fun _ => rfl
  simp only [hold, outline, hm]

@[simp] theorem outline_setFields {fields : Fields} :
    (f.setFields i fields).outline = f.outline := by
  have hm : (f.nodes.modify i (·.withFields fields)).map SpanNode.outline =
      f.nodes.map SpanNode.outline := map_outline_modify fun _ => rfl
  simp only [setFields, outline, hm]

@[simp] theorem outline_enter : (f.enter i).outline = f.outline := by
  change (f.hold i).outline = f.outline
  exact outline_hold

@[simp] theorem outline_release : (f.release i now).2.outline = f.outline := by
  induction i using Nat.strongRecOn generalizing f with
  | _ i ih =>
    rw [release]
    cases hn : f.nodes[i]? with
    | none => rfl
    | some n =>
      simp only
      split
      · rfl
      · -- the forest where the span is held once less
        generalize hg : ({ f with nodes := f.nodes.set i { n with holds := n.holds - 1 } } :
          SpanForest) = g
        have hout : g.outline = f.outline := by
          have hm : (f.nodes.set i { n with holds := n.holds - 1 }).map SpanNode.outline =
              f.nodes.map SpanNode.outline := map_outline_set hn rfl
          subst hg
          simp only [outline, hm]
        split
        · cases n.parent with
          | none => exact hout
          | some p =>
            simp only
            split
            · next h => exact (ih p h).trans hout
            · exact hout
        · exact hout

@[simp] theorem outline_leave : (f.leave i now).2.outline = f.outline := by
  change (SpanForest.release { f with entered := f.entered.eraseP (·.1 = i) } i now).2.outline = f.outline
  exact outline_release

/-- What a span that starts under this one takes over. -/
def contextFrom? (f : SpanForest) (i : Nat) : Option SpanContext :=
  (f.exportedFrom? i).map (·.context)

theorem contextFrom?_eq : f.contextFrom? i =
    f.nodes[i]?.bind fun n =>
      if n.exported then some n.context
      else n.parent.bind fun p => if p < i then f.contextFrom? p else none := by
  rw [contextFrom?, exportedFrom?]
  cases f.nodes[i]? with
  | none => rfl
  | some n =>
    simp only [Option.bind_some]
    split
    · rfl
    · cases n.parent with
      | none => rfl
      | some p =>
        simp only [Option.bind_some]
        split <;> rfl

/-- The outline alone decides what is taken over, and further spans make no difference. -/
theorem contextFrom?_of_outline {more : List SpanNode}
    (h : g.outline.nodes = f.outline.nodes ++ more) (hi : i < f.nodes.length) :
    g.contextFrom? i = f.contextFrom? i := by
  induction i using Nat.strongRecOn with
  | _ i ih =>
    have hget : g.nodes[i]?.map SpanNode.outline = f.nodes[i]?.map SpanNode.outline := by
      have hlen : i < (f.nodes.map SpanNode.outline).length := by simpa using hi
      have hg := congrArg (·[i]?) h
      simpa only [outline, List.getElem?_append_left hlen, List.getElem?_map] using hg
    rw [contextFrom?_eq, contextFrom?_eq]
    cases hf : f.nodes[i]? with
    | none =>
      have hg : g.nodes[i]? = none := by simpa [hf] using hget
      rw [hg]
      rfl
    | some n =>
      rw [hf, Option.map_some, Option.map_eq_some_iff] at hget
      obtain ⟨m, hm, hmn⟩ := hget
      simp only [SpanNode.outline, SpanNode.mk.injEq] at hmn
      obtain ⟨-, hparent, -, hexported, hcontext, -⟩ := hmn
      rw [hm, Option.bind_some, Option.bind_some, hexported, hcontext, hparent]
      split
      · rfl
      · cases n.parent with
        | none => rfl
        | some p =>
          simp only [Option.bind_some]
          split
          · next hp => exact ih p hp (by omega)
          · rfl

/-- The outline of a span that starts. -/
def starting (f : SpanForest) (kind : SpanKind) (parent : Option Nat) (draw : SpanDraw) (now : Nat) :
    SpanNode :=
  let above := parent.bind f.contextFrom?
  let context : SpanContext :=
    match above with
    | some c => ⟨c.traceId, draw.spanId, c.sampled⟩
    | none => ⟨draw.traceId, draw.spanId, f.sampler.samples draw.chance⟩
  ⟨kind, parent, 0, f.exportLimit.admits kind.level, context, above.map (·.spanId), now, []⟩

/-- Somebody wants spans of this level. -/
def wants (f : SpanForest) (level : Level) : Bool :=
  f.exportLimit.admits level || f.logLimit.admits level

variable {kind : SpanKind} {parent : Option Nat} {fields : Fields} {draw : SpanDraw}

theorem start_of_unwanted (h : f.wants kind.level = false) :
    f.start kind parent fields draw now = (none, f) := by
  simp only [wants, Bool.or_eq_false_iff] at h
  simp [start, h]

theorem length_nodes_of_outline (h : g.outline = f.outline) : g.nodes.length = f.nodes.length := by
  have hl := congrArg (fun o => o.nodes.length) h
  simpa only [outline, List.length_map] using hl

theorem outline_append {n : SpanNode} : ({ f with nodes := f.nodes ++ [n] } : SpanForest).outline =
    { f.outline with nodes := f.outline.nodes ++ [n.outline] } := by
  simp [outline]

theorem start_of_wanted (h : f.wants kind.level = true) :
    (f.start kind parent fields draw now).1 = some f.nodes.length ∧
      (f.start kind parent fields draw now).2.outline =
        { f.outline with nodes := f.outline.nodes ++ [f.starting kind parent draw now] } := by
  have hw : ¬(!f.exportLimit.admits kind.level && !f.logLimit.admits kind.level) = true := by
    intro hn
    rw [← Bool.not_or, ← wants, h] at hn
    cases hn
  unfold start
  simp only [if_neg hw]
  cases parent with
  | none => exact ⟨rfl, outline_append⟩
  | some p =>
    have hhold : (f.hold p).outline = f.outline := outline_hold
    refine ⟨congrArg some (length_nodes_of_outline hhold), outline_append.trans ?_⟩
    rw [hhold]
    rfl

/-- Further spans at most were added. -/
def Grows (f g : SpanForest) : Prop :=
  ∃ more, g.outline = { f.outline with nodes := f.outline.nodes ++ more }

theorem grows_of_outline (h : g.outline = f.outline) : f.Grows g := ⟨[], by simp [h]⟩

theorem Grows.trans {h : SpanForest} (hfg : f.Grows g) (hgh : g.Grows h) : f.Grows h := by
  obtain ⟨more, hfg⟩ := hfg
  obtain ⟨further, hgh⟩ := hgh
  exact ⟨more ++ further, by rw [hgh, hfg]; simp⟩

theorem grows_start : f.Grows (f.start kind parent fields draw now).2 := by
  cases h : f.wants kind.level with
  | false =>
    rw [start_of_unwanted h]
    exact grows_of_outline rfl
  | true => exact ⟨_, (start_of_wanted h).2⟩

theorem Grows.mem (h : f.Grows g) {n : SpanNode} (hn : n ∈ f.outline.nodes) : n ∈ g.outline.nodes := by
  obtain ⟨more, h⟩ := h
  rw [h]
  exact List.mem_append_left _ hn

theorem Grows.contextFrom?_eq (h : f.Grows g) (hi : i < f.nodes.length) :
    g.contextFrom? i = f.contextFrom? i := by
  obtain ⟨more, h⟩ := h
  exact contextFrom?_of_outline (congrArg SpanForest.nodes h) hi

theorem Grows.length_le (h : f.Grows g) : f.nodes.length ≤ g.nodes.length := by
  obtain ⟨more, h⟩ := h
  have hl := congrArg (fun o => o.nodes.length) h
  simp only [outline, List.length_map, List.length_append] at hl
  omega

theorem Grows.settings_eq (h : f.Grows g) :
    g.sampler = f.sampler ∧ g.exportLimit = f.exportLimit ∧ g.logLimit = f.logLimit := by
  obtain ⟨more, h⟩ := h
  simp only [outline, SpanForest.mk.injEq] at h
  exact ⟨h.1, h.2.1, h.2.2.1⟩

theorem length_start (h : f.wants kind.level = true) :
    (f.start kind parent fields draw now).2.nodes.length = f.nodes.length + 1 := by
  have hout : (f.start kind parent fields draw now).2.outline = _ := (start_of_wanted h).2
  have hnodes := congrArg (fun o => o.nodes.length) hout
  simpa [outline] using hnodes

/-- The span that was made last. -/
theorem contextFrom?_start (h : f.wants kind.level = true)
    (hp : ∀ p, parent = some p → p < f.nodes.length) :
    (f.start kind parent fields draw now).2.contextFrom? f.nodes.length =
      if f.exportLimit.admits kind.level then some (f.starting kind parent draw now).context
      else parent.bind f.contextFrom? := by
  generalize hg : (f.start kind parent fields draw now).2 = g
  have hgrows : f.Grows g := hg ▸ grows_start
  have hout : g.outline =
      { f.outline with nodes := f.outline.nodes ++ [f.starting kind parent draw now] } :=
    hg ▸ (start_of_wanted h).2
  have hlast : g.nodes[f.nodes.length]?.map SpanNode.outline =
      some (f.starting kind parent draw now) := by
    have hn := congrArg (fun o => o.nodes[f.nodes.length]?) hout
    simpa [outline] using hn
  obtain ⟨n, hn, hstarting⟩ := Option.map_eq_some_iff.mp hlast
  rw [contextFrom?_eq, hn, Option.bind_some]
  have hexported : n.exported = f.exportLimit.admits kind.level :=
    congrArg (fun m => m.exported) hstarting
  have hcontext : n.context = (f.starting kind parent draw now).context :=
    congrArg (fun m => m.context) hstarting
  have hparent : n.parent = parent := congrArg (fun m => m.parent) hstarting
  rw [hexported, hcontext, hparent]
  split
  · rfl
  · cases parent with
    | none => rfl
    | some p =>
      rw [Option.bind_some, if_pos (hp p rfl), hgrows.contextFrom?_eq (hp p rfl)]
      rfl

end SpanForest

namespace SpanHandles

variable {s s' : SpanHandles} {now : Nat} {m : SpanMove} {report : SpanReport} {kind : SpanKind}
  {parent : Option Nat} {fields : Fields} {draw : SpanDraw}

theorem forest_of_become {c : Prop} [Decidable c] {handles : List Nat} {out : List SpanRecord × SpanForest}
    (h : (if c then some (s.become handles out) else none) = some (report, s')) : s'.forest = out.2 := by
  simp only [Option.ite_none_right_eq_some, Option.some.injEq] at h
  obtain ⟨rfl, rfl⟩ := Prod.mk.inj h.2
  rfl

theorem forest_of_start (h : s.move? (now, .start kind parent fields draw) = some (report, s')) :
    s'.forest = (s.forest.start kind parent fields draw now).2 := forest_of_become h

/-- A move that makes no span leaves those that there are. -/
theorem outline_of_move? (hm : m.isStart = false) (h : s.move? (now, m) = some (report, s')) :
    s'.forest.outline = s.forest.outline := by
  cases m with
  | start => cases hm
  | record i fields =>
    rw [forest_of_become h]
    exact SpanForest.outline_setFields
  | hold i =>
    rw [forest_of_become h]
    exact SpanForest.outline_hold
  | enter i =>
    rw [forest_of_become h]
    exact SpanForest.outline_enter
  | leave i =>
    rw [forest_of_become h]
    exact SpanForest.outline_leave
  | drop i =>
    rw [forest_of_become h]
    exact SpanForest.outline_release

end SpanHandles

end MetricsGateway
