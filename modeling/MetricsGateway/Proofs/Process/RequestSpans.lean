import MetricsGateway.Process.RunSpans
import MetricsGateway.Proofs.Telemetry.Traces

/-!
The spans of requests in the records of a run. Where the log wants no spans of connections, each request is
the root of a trace of its own; where it does, a request that is served inside the span of its connection
belongs to the trace of the run, below the span of the server. Main statement: nothing else about the log
changes what is exported.
-/

namespace MetricsGateway

/-- The context of a span that takes this over, or nothing. -/
def SpanDraw.context (draw : SpanDraw) (sampler : Sampler) : Option SpanContext → SpanContext
  | some c => ⟨c.traceId, draw.spanId, c.sampled⟩
  | none => ⟨draw.traceId, draw.spanId, sampler.samples draw.chance⟩

namespace SpanForest

variable {f g : SpanForest} {sampler : Sampler} {kind : SpanKind} {parent : Option Nat} {fields : Fields}
  {draw : SpanDraw} {now : Nat} {ctx : Option SpanContext} {n : SpanNode}

/-- The spans of a run: those that are exported are told apart, and none is turned down. -/
structure OfRun (f : SpanForest) (sampler : Sampler) : Prop where
  sampler_eq : f.sampler = sampler
  exportLimit_eq : f.exportLimit = .exported
  logLimit_eq : f.logLimit = .upTo .trace

theorem OfRun.grows (h : f.OfRun sampler) (hg : f.Grows g) : g.OfRun sampler := by
  obtain ⟨hsampler, hexport, hlog⟩ := hg.settings_eq
  exact ⟨hsampler.trans h.sampler_eq, hexport.trans h.exportLimit_eq, hlog.trans h.logLimit_eq⟩

theorem OfRun.wants (h : f.OfRun sampler) (level : Level) : f.wants level = true := by
  rw [SpanForest.wants, h.logLimit_eq, Bool.or_eq_true]
  exact .inr (by cases level <;> rfl)

/-- Children of this parent take this over. -/
structure HandsOn (f : SpanForest) (parent : Option Nat) (ctx : Option SpanContext) : Prop where
  lt_length : ∀ p, parent = some p → p < f.nodes.length
  context_eq : parent.bind f.contextFrom? = ctx

theorem handsOn_none : f.HandsOn none none := ⟨nofun, rfl⟩

namespace HandsOn

theorem grows (h : f.HandsOn parent ctx) (hg : f.Grows g) : g.HandsOn parent ctx := by
  refine ⟨fun p hp => Nat.lt_of_lt_of_le (h.lt_length p hp) hg.length_le, ?_⟩
  rw [← h.context_eq]
  cases parent with
  | none => rfl
  | some p => exact hg.contextFrom?_eq (h.lt_length p rfl)

theorem starting_eq (h : f.HandsOn parent ctx) (hf : f.OfRun sampler) :
    f.starting kind parent draw now = ⟨kind, parent, 0, LevelLimit.exported.admits kind.level,
      draw.context sampler ctx, ctx.map (·.spanId), now, []⟩ := by
  rw [starting, h.context_eq, hf.exportLimit_eq, hf.sampler_eq]
  cases ctx <;> rfl

/-- A new span hands on its own context if it is exported, and what it would have taken over if not. -/
theorem start (h : f.HandsOn parent ctx) (hf : f.OfRun sampler) :
    (f.start kind parent fields draw now).2.HandsOn (some f.nodes.length)
      (if LevelLimit.exported.admits kind.level then some (draw.context sampler ctx) else ctx) := by
  have hcontext : (f.start kind parent fields draw now).2.contextFrom? f.nodes.length = _ :=
    contextFrom?_start (hf.wants kind.level) h.lt_length
  rw [h.starting_eq hf, h.context_eq, hf.exportLimit_eq] at hcontext
  refine ⟨fun p hp => ?_, hcontext⟩
  obtain rfl := Option.some.inj hp
  rw [length_start (hf.wants kind.level)]
  exact Nat.lt_succ_self _

theorem mem_start (h : f.HandsOn parent ctx) (hf : f.OfRun sampler) :
    n ∈ (f.start kind parent fields draw now).2.outline.nodes ↔ n ∈ f.outline.nodes ∨
      n = ⟨kind, parent, 0, LevelLimit.exported.admits kind.level, draw.context sampler ctx,
        ctx.map (·.spanId), now, []⟩ := by
  rw [(start_of_wanted (hf.wants kind.level)).2, List.mem_append, List.mem_singleton, h.starting_eq hf]

end HandsOn

end SpanForest

namespace RunSpans

variable {o : Options} {sampler : Sampler} {log other : LogFilter} {b : RunBeginning}
  {moves : List (Nat × RunSpanMove)} {reports : List SpanReport} {now : Nat} {m : RunSpanMove}
  {report : SpanReport} {s s' : RunSpans}

/-- Does the log want the spans of connections? -/
def wantsConnections (log : LogFilter) : Bool :=
  log.admitsKind [Group.scope "server"] Server.connectionKind ["id", "peer"]

/-- It wants all of them or none. -/
theorem admitsScope_connectionScope (log : LogFilter) (number : Nat) (peer : String) :
    log.admitsScope [Group.scope "server"] (Server.connectionScope number peer) = wantsConnections log := rfl

/-- A level alone wants them from DEBUG on. -/
theorem wantsConnections_ofLimit (limit : LevelLimit) :
    wantsConnections (.ofLimit limit) = limit.admits .debug := rfl

/-! ## What a move does -/

inductive Moves (s : RunSpans) (now : Nat) : RunSpanMove → SpanReport → RunSpans → Prop where
  | shown {peer : String} {draw : SpanDraw} {report : SpanReport} {spans : SpanHandles}
      (hwants : wantsConnections s.log = true)
      (h : s.spans.move? (now, start (some serverPlace)
        (Server.connectionScope (s.connections.length + 1) peer) draw) = some (report, spans)) :
      Moves s now (.connect peer draw) report
        { s with spans, connections := s.connections ++ [some s.spans.forest.nodes.length] }
  | unshown {peer : String} {draw : SpanDraw} (hwants : wantsConnections s.log = false) :
      Moves s now (.connect peer draw) ⟨[], []⟩ { s with connections := s.connections ++ [none] }
  | request {connection : Nat} {ownTask : Bool} {r : Request} {draw : SpanDraw} {around : Option Nat}
      {report : SpanReport} {spans : SpanHandles} (haround : s.connections[connection]? = some around)
      (h : s.spans.move? (now, start (if ownTask then none else around) (Gateway.scope r) draw) =
        some (report, spans)) :
      Moves s now (.request connection ownTask r draw) report { s with spans }
  | other {move : SpanMove} {report : SpanReport} {spans : SpanHandles} (hm : move.isStart = false)
      (h : s.spans.move? (now, move) = some (report, spans)) :
      Moves s now (.other move) report { s with spans }

theorem move?_eq_some_iff : s.move? (now, m) = some (report, s') ↔ s.Moves now m report s' := by
  constructor
  · intro h
    cases m with
    | connect peer draw =>
      simp only [move?, admitsScope_connectionScope] at h
      cases hwants : wantsConnections s.log with
      | true =>
        simp only [hwants, if_true] at h
        obtain ⟨⟨report', spans⟩, hmove, heq⟩ := Option.map_eq_some_iff.mp h
        obtain ⟨rfl, rfl⟩ := Prod.mk.inj heq
        exact .shown hwants hmove
      | false =>
        simp only [hwants, Bool.false_eq_true, if_false] at h
        obtain ⟨rfl, rfl⟩ := Prod.mk.inj (Option.some.inj h)
        exact .unshown hwants
    | request connection ownTask r draw =>
      obtain ⟨around, haround, h⟩ := Option.bind_eq_some_iff.mp h
      obtain ⟨⟨report', spans⟩, hmove, heq⟩ := Option.map_eq_some_iff.mp h
      obtain ⟨rfl, rfl⟩ := Prod.mk.inj heq
      exact .request haround hmove
    | other move =>
      simp only [move?, Option.ite_none_left_eq_some, Bool.not_eq_true] at h
      obtain ⟨hm, h⟩ := h
      obtain ⟨⟨report', spans⟩, hmove, heq⟩ := Option.map_eq_some_iff.mp h
      obtain ⟨rfl, rfl⟩ := Prod.mk.inj heq
      exact .other hm hmove
  · intro h
    cases h with
    | shown hwants h => simp only [move?, admitsScope_connectionScope, hwants, if_true, h, Option.map_some]
    | unshown hwants => simp only [move?, admitsScope_connectionScope, hwants, Bool.false_eq_true, if_false]
    | request haround h => simp only [move?, haround, Option.bind_some, h, Option.map_some]
    | other hm h => simp only [move?, hm, Bool.false_eq_true, if_false, h, Option.map_some]

theorem Moves.log_eq (h : s.Moves now m report s') : s'.log = s.log := by
  cases h <;> rfl

/-! ## Another log -/

def withLog (s : RunSpans) (other : LogFilter) : RunSpans := { s with log := other }

theorem Moves.withLog (h : s.Moves now m report s') (hsame : wantsConnections other = wantsConnections s.log) :
    (s.withLog other).Moves now m report (s'.withLog other) := by
  cases h with
  | shown hwants h => exact .shown (s := s.withLog other) (hsame.trans hwants) h
  | unshown hwants => exact .unshown (s := s.withLog other) (hsame.trans hwants)
  | request haround h => exact .request (s := s.withLog other) haround h
  | other hm h => exact .other (s := s.withLog other) hm h

/-- Logs that agree on the spans of connections leave the same records. -/
theorem run?_withLog (hsame : wantsConnections other = wantsConnections s.log)
    (h : s.run? moves = some (reports, s')) :
    (s.withLog other).run? moves = some (reports, s'.withLog other) := by
  induction moves generalizing s reports with
  | nil =>
    obtain ⟨rfl, rfl⟩ := History.run?_nil.mp h
    exact History.run?_nil.mpr ⟨rfl, rfl⟩
  | cons e moves ih =>
    obtain ⟨report, t, rest, hstep, hrest, rfl⟩ := History.run?_cons.mp h
    have hmoves := move?_eq_some_iff.mp hstep
    have hagain : wantsConnections other = wantsConnections t.log := hmoves.log_eq.symm ▸ hsame
    exact History.run?_cons.mpr ⟨report, t.withLog other, rest,
      move?_eq_some_iff.mpr (hmoves.withLog hsame), ih hagain hrest, rfl⟩

/-! ## Runs of spans -/

theorem Moves.exists_run (h : s.Moves now m report s') : ∃ spanMoves spanReports,
    s.spans.run? spanMoves = some (spanReports, s'.spans) ∧
      spanReports.flatMap (·.records) = report.records := by
  cases h with
  | shown hwants h => exact ⟨_, _, History.run?_single h, List.flatMap_singleton ..⟩
  | unshown hwants => exact ⟨[], [], rfl, rfl⟩
  | request haround h => exact ⟨_, _, History.run?_single h, List.flatMap_singleton ..⟩
  | other hm h => exact ⟨_, _, History.run?_single h, List.flatMap_singleton ..⟩

/-- Before anybody connects, three spans were made. -/
theorem exists_run_begin (o : Options) (sampler : Sampler) (log : LogFilter) (b : RunBeginning) :
    ∃ spanMoves spanReports, (SpanHandles.new sampler .exported (.upTo .trace)).run? spanMoves =
      some (spanReports, (begin o sampler log b).spans) ∧ spanReports.flatMap (·.records) = [] :=
  ⟨[(b.run.1, start none (scope o) b.run.2),
    (b.signals.1, start (some 0) (Group.scope "signals") b.signals.2),
    (b.server.1, start (some 0) (Group.scope "server") b.server.2)], _, rfl, rfl⟩

/-- Whatever a run does with its spans is done with spans in the hands of a program. -/
theorem exists_run_of_run (h : (begin o sampler log b).run? moves = some (reports, s)) :
    ∃ spanMoves spanReports, (SpanHandles.new sampler .exported (.upTo .trace)).run? spanMoves =
      some (spanReports, s.spans) ∧
        spanReports.flatMap (·.records) = reports.flatMap (·.records) := by
  refine History.run?_induction (P := fun _ reports s => ∃ spanMoves spanReports,
    (SpanHandles.new sampler .exported (.upTo .trace)).run? spanMoves = some (spanReports, s.spans) ∧
      spanReports.flatMap (·.records) = reports.flatMap (·.records)) (exists_run_begin o sampler log b)
    (fun es os t e report u _ ih hstep => ?_) h
  obtain ⟨before, told, hbefore, htold⟩ := ih
  obtain ⟨after, more, hafter, hmore⟩ := (move?_eq_some_iff.mp hstep).exists_run
  refine ⟨before ++ after, told ++ more, History.run?_append hbefore hafter, ?_⟩
  rw [List.flatMap_append, List.flatMap_append, htold, hmore, List.flatMap_singleton]

/-! ## Requests -/

/-- What the span of the server hands on. -/
def serverContext (sampler : Sampler) (b : RunBeginning) : SpanContext :=
  ⟨b.run.2.traceId, b.server.2.spanId, sampler.samples b.run.2.chance⟩

/-- Is a request below the span of the server? It is if its connection has a span and it is served
inside of that. -/
def below (log : LogFilter) (ownTask : Bool) : Bool := wantsConnections log && !ownTask

/-- What the span of a request takes over. -/
def above (sampler : Sampler) (b : RunBeginning) (below : Bool) : Option SpanContext :=
  if below then some (serverContext sampler b) else none

/-- The span of a request that came at some time. -/
def requestNode (sampler : Sampler) (b : RunBeginning) (below : Bool) (now : Nat) (parent : Option Nat)
    (r : Request) (draw : SpanDraw) : SpanNode :=
  ⟨(Gateway.scope r).kind, parent, 0, true, draw.context sampler (above sampler b below),
    (above sampler b below).map (·.spanId), now, []⟩

/-- A run after some moves: what its spans hand on, and which of them are spans of requests. -/
structure Serving (sampler : Sampler) (log : LogFilter) (b : RunBeginning)
    (moves : List (Nat × RunSpanMove)) (s : RunSpans) : Prop where
  log_eq : s.log = log
  ofRun : s.spans.forest.OfRun sampler
  server : s.spans.forest.HandsOn (some serverPlace) (some (serverContext sampler b))
  connections : ∀ around ∈ s.connections,
    s.spans.forest.HandsOn around (above sampler b (wantsConnections log))
  of_span : ∀ n ∈ s.spans.forest.outline.nodes, n.kind.name = "request" →
    ∃ now connection ownTask r draw parent, (now, .request connection ownTask r draw) ∈ moves ∧
      n = requestNode sampler b (below log ownTask) now parent r draw
  of_request : ∀ now connection ownTask r draw, (now, .request connection ownTask r draw) ∈ moves →
    ∃ parent, requestNode sampler b (below log ownTask) now parent r draw ∈ s.spans.forest.outline.nodes

namespace Serving

/-- The span of the server is the third one, and it is in the trace of the first one. -/
theorem begin (o : Options) (sampler : Sampler) (log : LogFilter) (b : RunBeginning) :
    Serving sampler log b [] (RunSpans.begin o sampler log b) := by
  let first : SpanForest := .new sampler .exported (.upTo .trace)
  let run := (first.start (scope o).kind none (scope o).fields b.run.2 b.run.1).2
  let watching := (run.start (Group.scope "signals").kind (some 0) (Group.scope "signals").fields
    b.signals.2 b.signals.1).2
  have hfirst : first.OfRun sampler := ⟨rfl, rfl, rfl⟩
  have hrun : run.OfRun sampler := hfirst.grows SpanForest.grows_start
  have hwatching : watching.OfRun sampler := hrun.grows SpanForest.grows_start
  have hroot : run.HandsOn (some 0) (some (b.run.2.context sampler none)) :=
    SpanForest.handsOn_none.start hfirst
  have hbelow : watching.HandsOn (some 0) (some (b.run.2.context sampler none)) :=
    hroot.grows SpanForest.grows_start
  refine ⟨rfl, hwatching.grows SpanForest.grows_start, hbelow.start hwatching, nofun, fun n hn hname => ?_,
    nofun⟩
  -- none of these spans is one of a request
  obtain hn | rfl := (hbelow.mem_start hwatching).mp hn
  · obtain hn | rfl := (hroot.mem_start hrun).mp hn
    · obtain hn | rfl := (SpanForest.handsOn_none.mem_start hfirst).mp hn
      · cases hn
      · simp [scope] at hname
    · simp [Group.scope] at hname
  · simp [Group.scope] at hname

/-- A move that is no request leaves the spans of requests as they are. -/
theorem keep (v : Serving sampler log b moves s) (hlog : s'.log = s.log)
    (hm : ∀ connection ownTask r draw, m ≠ .request connection ownTask r draw)
    (hg : s.spans.forest.Grows s'.spans.forest)
    (hconnections : ∀ around ∈ s'.connections, around ∈ s.connections ∨
      s'.spans.forest.HandsOn around (above sampler b (wantsConnections log)))
    (hspan : ∀ n ∈ s'.spans.forest.outline.nodes, n.kind.name = "request" →
      n ∈ s.spans.forest.outline.nodes) :
    Serving sampler log b (moves ++ [(now, m)]) s' where
  log_eq := hlog.trans v.log_eq
  ofRun := v.ofRun.grows hg
  server := v.server.grows hg
  connections around haround :=
    (hconnections around haround).elim (fun hold => (v.connections around hold).grows hg) id
  of_span n hn hname := by
    obtain ⟨now, connection, ownTask, r, draw, parent, hmem, hnode⟩ := v.of_span n (hspan n hn hname) hname
    exact ⟨now, connection, ownTask, r, draw, parent, List.mem_append_left _ hmem, hnode⟩
  of_request now connection ownTask r draw hmem := by
    obtain hmem | hlast := List.mem_append.mp hmem
    · obtain ⟨parent, hnode⟩ := v.of_request now connection ownTask r draw hmem
      exact ⟨parent, hg.mem hnode⟩
    · exact absurd (Prod.mk.inj (List.mem_singleton.mp hlast)).2.symm (hm connection ownTask r draw)

theorem step (v : Serving sampler log b moves s) (h : s.Moves now m report s') :
    Serving sampler log b (moves ++ [(now, m)]) s' := by
  cases h with
  | @shown peer draw report spans hwants h =>
    have hforest : spans.forest = (s.spans.forest.start _ _ _ _ _).2 := SpanHandles.forest_of_start h
    have hg : s.spans.forest.Grows spans.forest := hforest ▸ SpanForest.grows_start
    refine v.keep rfl nofun hg (fun around haround => ?_) fun n hn hname => ?_
    · refine (List.mem_append.mp haround).imp_right fun hnew => ?_
      rw [List.mem_singleton.mp hnew, hforest, ← v.log_eq, hwants]
      exact v.server.start v.ofRun
    · rw [hforest, v.server.mem_start v.ofRun] at hn
      refine hn.resolve_right ?_
      rintro rfl
      simp [Server.connectionScope, Server.connectionKind] at hname
  | @unshown peer draw hwants =>
    refine v.keep rfl nofun (SpanForest.grows_of_outline rfl) (fun around haround => ?_) fun _ hn _ => hn
    refine (List.mem_append.mp haround).imp_right fun hnew => ?_
    rw [List.mem_singleton.mp hnew, ← v.log_eq, hwants]
    exact SpanForest.handsOn_none
  | @request connection ownTask r draw around report spans haround h =>
    have hforest : spans.forest = (s.spans.forest.start _ _ _ _ _).2 := SpanHandles.forest_of_start h
    have hg : s.spans.forest.Grows spans.forest := hforest ▸ SpanForest.grows_start
    have hparent : s.spans.forest.HandsOn (if ownTask then none else around)
        (above sampler b (below log ownTask)) := by
      cases ownTask with
      | true =>
        rw [below, Bool.not_true, Bool.and_false]
        exact SpanForest.handsOn_none
      | false =>
        rw [below, Bool.not_false, Bool.and_true]
        exact v.connections around (List.mem_of_getElem? haround)
    have hmem (n : SpanNode) : n ∈ spans.forest.outline.nodes ↔ n ∈ s.spans.forest.outline.nodes ∨
        n = requestNode sampler b (below log ownTask) now (if ownTask then none else around) r draw := by
      rw [hforest]
      exact hparent.mem_start v.ofRun
    refine ⟨v.log_eq, v.ofRun.grows hg, v.server.grows hg,
      fun around haround => (v.connections around haround).grows hg, fun n hn hname => ?_,
      fun now' connection' ownTask' r' draw' hmove => ?_⟩
    · obtain hold | rfl := (hmem n).mp hn
      · obtain ⟨now', connection', ownTask', r', draw', parent, hmove, hnode⟩ := v.of_span n hold hname
        exact ⟨now', connection', ownTask', r', draw', parent, List.mem_append_left _ hmove, hnode⟩
      · exact ⟨now, connection, ownTask, r, draw, _, List.mem_append_right _ (List.mem_singleton_self _), rfl⟩
    · obtain hmove | hlast := List.mem_append.mp hmove
      · obtain ⟨parent, hnode⟩ := v.of_request now' connection' ownTask' r' draw' hmove
        exact ⟨parent, hg.mem hnode⟩
      · obtain ⟨rfl, hrequest⟩ := Prod.mk.inj (List.mem_singleton.mp hlast)
        obtain ⟨rfl, rfl, rfl, rfl⟩ := RunSpanMove.request.inj hrequest
        exact ⟨_, (hmem _).mpr (.inr rfl)⟩
  | @other move report spans hm h =>
    have hout : spans.forest.outline = s.spans.forest.outline := SpanHandles.outline_of_move? hm h
    exact v.keep rfl nofun (SpanForest.grows_of_outline hout) (fun _ => .inl) fun n hn _ => hout ▸ hn

end Serving

theorem serving_of_run (h : (begin o sampler log b).run? moves = some (reports, s)) :
    Serving sampler log b moves s :=
  History.run?_induction (P := fun moves _ s => Serving sampler log b moves s) (.begin o sampler log b)
    (fun _ _ _ _ _ _ _ v hstep => v.step (move?_eq_some_iff.mp hstep)) h

/-! ## Records -/

/-- The draw for the root of a request's trace. -/
def rootDraw (b : RunBeginning) (below : Bool) (draw : SpanDraw) : SpanDraw :=
  if below then b.run.2 else draw

/-- The record of a request that came at some time. It is in the trace of the run, with the span of the
server for its parent, or in a trace of its own and without a parent. -/
structure IsRecord (b : RunBeginning) (below : Bool) (now : Nat) (draw : SpanDraw) (record : SpanRecord) :
    Prop where
  name_eq : record.name = "request"
  start_eq : record.start = now
  spanId_eq : record.spanId = Text.hexPadded 16 draw.spanId
  traceId_eq : record.traceId = Text.hexPadded 32 (rootDraw b below draw).traceId
  parentSpanId_eq : record.parentSpanId =
    if below then some (Text.hexPadded 16 b.server.2.spanId) else none

theorem context_requestNode {below : Bool} {parent : Option Nat} {r : Request} {draw : SpanDraw} :
    (requestNode sampler b below now parent r draw).context = ⟨(rootDraw b below draw).traceId, draw.spanId,
      sampler.samples (rootDraw b below draw).chance⟩ := by
  cases below <;> rfl

theorem isRecord_of_tells {n : SpanNode} {below : Bool} {parent : Option Nat} {r : Request} {draw : SpanDraw}
    {record : SpanRecord} (hn : n.outline = requestNode sampler b below now parent r draw)
    (h : n.Tells record) : IsRecord b below now draw record := by
  have hcontext : n.context = _ := (congrArg (·.context) hn).trans context_requestNode
  have hparent : n.parentSpanId = (above sampler b below).map (·.spanId) := congrArg (·.parentSpanId) hn
  refine ⟨h.name_eq.trans (congrArg (·.kind.name) hn), h.start_eq.trans (congrArg (·.start) hn), ?_, ?_, ?_⟩
  · rw [h.spanId_eq, hcontext]
  · rw [h.traceId_eq, hcontext]
  · rw [h.parentSpanId_eq, hparent]
    cases below <;> rfl

/-- What is exported depends on the log, though only on whether it wants the spans of connections. Each
record of a request is that of one that came, and each request whose root was sampled has its record once
all spans are let go of. In a log that wants no spans of connections each request is the root of a trace of
its own, by a decision of its own; so is it in every log where it is served in a task of its own. Otherwise
it belongs to the trace of the run, by the decision for the run, below the span of the server. -/
theorem request_spans_follow_log_filter (h : (begin o sampler log b).run? moves = some (reports, s)) :
    (∀ other, wantsConnections other = wantsConnections log →
      ∃ s', (begin o sampler other b).run? moves = some (reports, s')) ∧
    (∀ record ∈ reports.flatMap (·.records), record.name = "request" →
      ∃ now connection ownTask r draw, (now, .request connection ownTask r draw) ∈ moves ∧
        sampler.samples (rootDraw b (below log ownTask) draw).chance = true ∧
        IsRecord b (below log ownTask) now draw record) ∧
    (s.spans.handles = [] → s.spans.forest.entered = [] →
      ∀ now connection ownTask r draw, (now, .request connection ownTask r draw) ∈ moves →
        sampler.samples (rootDraw b (below log ownTask) draw).chance = true →
        ∃ record ∈ reports.flatMap (·.records), IsRecord b (below log ownTask) now draw record) := by
  have v := serving_of_run h
  obtain ⟨spanMoves, spanReports, hrun, hrecords⟩ := exists_run_of_run h
  obtain ⟨htold, hleft⟩ := SpanHandles.recorded_of_run hrun
  rw [hrecords] at htold hleft
  refine ⟨fun other hsame => ⟨_, run?_withLog (s := begin o sampler log b) hsame h⟩,
    fun record hrecord hname => ?_, fun hhandles hentered now connection ownTask r draw hmove hsampled => ?_⟩
  · obtain ⟨n, hn, hsampled, htells⟩ := htold record hrecord
    obtain ⟨now, connection, ownTask, r, draw, parent, hmove, hnode⟩ :=
      v.of_span n.outline (List.mem_map_of_mem hn) (htells.name_eq.symm.trans hname)
    refine ⟨now, connection, ownTask, r, draw, hmove, ?_, isRecord_of_tells hnode htells⟩
    have hcontext : n.context = _ := (congrArg (·.context) hnode).trans context_requestNode
    rw [hcontext] at hsampled
    exact (Bool.and_eq_true_iff.mp hsampled).2
  · obtain ⟨parent, hnode⟩ := v.of_request now connection ownTask r draw hmove
    obtain ⟨n, hn, hout⟩ := List.mem_map.mp hnode
    obtain ⟨i, hget⟩ := List.mem_iff_getElem?.mp hn
    have hclosed := (SpanHandles.kept_of_run hrun).not_isOpen_of_nil hhandles hentered i
    have hcontext : n.context = _ := (congrArg (·.context) hout).trans context_requestNode
    have hexported : n.exported = true := congrArg (·.exported) hout
    obtain ⟨record, hrecord, htells⟩ := hleft i n hget hclosed (by rw [hexported, hcontext, hsampled]; rfl)
    exact ⟨record, hrecord, isRecord_of_tells hout htells⟩

/-- A gateway in front of one host, with nothing but defaults otherwise. -/
def plain : Options :=
  let upstream : Url := ⟨.http, [], [], .domain "thanos".toList, none, [[]], none, none⟩
  ⟨.default, .default, ⟨upstream, upstream, 1, 1⟩, .default, false⟩

def begun : RunBeginning := ⟨(1, ⟨1, 2, 0.25⟩), (2, ⟨3, 4, 0.75⟩), (3, ⟨5, 6, 0.75⟩)⟩

/-- One connection with one request on it, and then some spans are let go of. -/
def visited (dropped : List Nat) : List (Nat × RunSpanMove) :=
  [(4, .connect "127.0.0.1:40000" ⟨7, 8, 0.75⟩),
    (5, .request 0 false ⟨"GET", ⟨none, [], "/metrics".toList, none⟩, [], [], false⟩ ⟨9, 10, 0.25⟩)] ++
    dropped.map fun i => (6, .other (.drop i))

/-- The log level and a filter on spans of connections alone leave the same records. -/
theorem request_spans_of_visited : ∃ reports s s',
    (begin plain (.sometimes 0.5) (.ofLimit (.upTo .debug)) begun).run? (visited [4, 3, 2, 1, 0]) =
      some (reports, s) ∧
    (begin plain (.sometimes 0.5) ⟨[], [⟨none, some "connection".toList, [], .upTo .debug⟩]⟩ begun).run?
      (visited [4, 3, 2, 1, 0]) = some (reports, s') ∧
    ∃ record ∈ reports.flatMap (·.records), IsRecord begun true 5 ⟨9, 10, 0.25⟩ record := by
  have hrun : ((begin plain (.sometimes 0.5) (.ofLimit (.upTo .debug)) begun).run?
      (visited [4, 3, 2, 1, 0])).map (fun (_, s) => (s.spans.handles, s.spans.forest.entered)) =
        some ([], []) := by
    decide +kernel
  obtain ⟨⟨reports, s⟩, h, hdone⟩ := Option.map_eq_some_iff.mp hrun
  obtain ⟨hhandles, hentered⟩ := Prod.mk.inj hdone
  obtain ⟨hsame, -, hall⟩ := request_spans_follow_log_filter h
  obtain ⟨s', h'⟩ := hsame ⟨[], [⟨none, some "connection".toList, [], .upTo .debug⟩]⟩ (by decide +kernel)
  exact ⟨reports, s, s', h, h', hall hhandles hentered 5 0 false _ _ (List.mem_cons_of_mem _ List.mem_cons_self)
    (by decide +kernel)⟩

/-- The log level changes what is exported: the request is a root in one log and not in the other. Its span
stands one place later where its connection has one. -/
theorem request_root_of_log_filter :
    ((begin plain .always (.ofLimit (.upTo .info)) begun).run? (visited [3])).map (fun out =>
      (out.1.flatMap (·.records)).map fun r => (r.name, r.parentSpanId)) = some [("request", none)] ∧
    ((begin plain .always (.ofLimit (.upTo .debug)) begun).run? (visited [4])).map (fun out =>
      (out.1.flatMap (·.records)).map fun r => (r.name, r.parentSpanId)) =
        some [("request", some "0000000000000006")] := by
  constructor <;> decide +kernel

end RunSpans

end MetricsGateway
