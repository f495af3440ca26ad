import Mathlib.Data.List.Forall2
import MetricsGateway.Proofs.Telemetry.Story

/-!
Whole traces in the records. Main statement: whatever a program does with its spans, each span leaves one
record when it ends if the root of its trace was sampled, and none otherwise, and the record says what was
told of the span.
-/

namespace MetricsGateway

namespace Text

end Text

/-- The record tells of the span. -/
structure SpanNode.Tells (n : SpanNode) (r : SpanRecord) : Prop where
  name_eq : r.name = n.kind.name
  start_eq : r.start = n.start
  traceId_eq : r.traceId = Text.hexPadded 32 n.context.traceId
  spanId_eq : r.spanId = Text.hexPadded 16 n.context.spanId
  parentSpanId_eq : r.parentSpanId = n.parentSpanId.map (Text.hexPadded 16)

/-- What was drawn for the span that a move makes. -/
def SpanMove.draw? : SpanMove → Option SpanDraw
  | start _ _ _ draw => some draw
  | _ => none

namespace SpanStory

variable {t u : SpanStory} {i now : Nat} {l : SpanLife} {n : SpanNode} {r : SpanRecord}
  {report : SpanReport}

/-- The records are those of the spans that end whose roots were sampled, one for each. -/
def Recounts (t : SpanStory) (now : Nat) (report : SpanReport) : Prop :=
  List.Forall₂ (fun i r => ∃ l, t.Tells i now l r) (report.ended.filter t.isSampled) report.records

theorem Shows.isSampled_eq (h : t.Shows i l n) (hl : t.lives[i]? = some l) :
    t.isSampled i = (n.exported && n.context.sampled) := by
  rw [h.exported_eq, h.context_eq, isSampled, isExported_of_getElem? hl]
  rfl

theorem Shows.tells (h : t.Shows i l n) (hr : t.Tells i now l r) : n.Tells r where
  name_eq := hr.name_eq.trans (congrArg SpanKind.name h.kind_eq.symm)
  start_eq := hr.start_eq.trans h.start_eq.symm
  traceId_eq := by rw [hr.traceId_eq, h.context_eq, contextOf]
  spanId_eq := by rw [hr.spanId_eq, h.context_eq, contextOf, draw_of_getElem? hr.life_eq]
  parentSpanId_eq := by rw [hr.parentSpanId_eq, h.parentSpanId_eq]

/-- A span that ends leaves a record that tells of it if its root was sampled, and none otherwise. -/
theorem Shows.record?_eq (h : t.Shows i l n) (hl : t.lives[i]? = some l) (now : Nat) :
    if t.isSampled i then ∃ r, n.record? now = some r ∧ t.Tells i now l r else n.record? now = none := by
  rw [SpanNode.record?, ← h.isSampled_eq hl]
  split
  · refine ⟨_, rfl, hl, congrArg (·.name) h.kind_eq, congrArg (·.target) h.kind_eq, h.start_eq, rfl,
      ?_, ?_, ?_, fun name => ?_, ?_⟩
    · rw [h.context_eq]
      rfl
    · rw [h.context_eq, contextOf, draw_of_getElem? hl]
    · rw [h.parentSpanId_eq]
    · rw [h.attributes_eq, SpanNode.lookup_attributesOf]
    · rw [h.attributes_eq]
      exact SpanNode.pairwise_attributesOf
  · rfl

theorem forall₂_filterMap {α β : Type} {chosen : α → Bool} {f : α → Option β} {R : α → β → Prop} {as : List α}
    (h : ∀ a ∈ as, if chosen a then ∃ b, f a = some b ∧ R a b else f a = none) :
    List.Forall₂ R (as.filter chosen) (as.filterMap f) := by
  induction as with
  | nil => exact .nil
  | cons a as ih =>
    obtain ⟨hfirst, hrest⟩ := List.forall_mem_cons.mp h
    cases hchosen : chosen a with
    | true =>
      rw [hchosen, if_pos rfl] at hfirst
      obtain ⟨b, hb, hr⟩ := hfirst
      rw [List.filter_cons_of_pos hchosen, List.filterMap_cons_some hb]
      exact .cons hr (ih hrest)
    | false =>
      rw [hchosen, if_neg Bool.false_ne_true] at hfirst
      rw [List.filter_cons_of_neg (by simp [hchosen]), List.filterMap_cons_none hfirst]
      exact ih hrest

theorem exists_mem_left {α β : Type} {R : α → β → Prop} {as : List α} {bs : List β} {b : β}
    (h : List.Forall₂ R as bs) (hb : b ∈ bs) : ∃ a ∈ as, R a b := by
  induction h with
  | nil => cases hb
  | @cons a b' as bs hr _ ih =>
    obtain rfl | hb := List.mem_cons.mp hb
    · exact ⟨a, List.mem_cons_self, hr⟩
    · obtain ⟨a, ha, hr⟩ := ih hb
      exact ⟨a, List.mem_cons_of_mem _ ha, hr⟩

/-- What was recounted stays so as long as nothing more is recorded on the spans that ended. -/
theorem Recounts.extends (h : t.Recounts now report) (hext : t.Extends u)
    (hsame : ∀ i ∈ report.ended, i < t.lives.length ∧ u.lives[i]? = t.lives[i]?) :
    u.Recounts now report := by
  have hfilter : report.ended.filter u.isSampled = report.ended.filter t.isSampled :=
    List.filter_congr fun i hi => hext.isSampled_eq (hsame i hi).1
  rw [Recounts, hfilter]
  have hended : ∀ i ∈ report.ended.filter t.isSampled, i ∈ report.ended :=
    fun i hi => (List.mem_filter.mp hi).1
  refine ((List.forall₂_and_left _ _).mpr ⟨hended, h⟩).imp fun i r hr => ?_
  obtain ⟨hi, l, hl⟩ := hr
  exact ⟨l, hext.tells (hsame i hi).2 hl⟩

/-- The draws of a program never give zero. -/
def Drawn (moves : List (Nat × SpanMove)) : Prop :=
  ∀ m ∈ moves, ∀ draw ∈ m.2.draw?, 0 < draw.traceId ∧ 0 < draw.spanId

instance {moves : List (Nat × SpanMove)} : Decidable (Drawn moves) :=
  inferInstanceAs (Decidable (∀ m ∈ moves, ∀ draw ∈ m.2.draw?, 0 < draw.traceId ∧ 0 < draw.spanId))

theorem Drawn.append {moves more : List (Nat × SpanMove)} (h : Drawn moves) (hmore : Drawn more) :
    Drawn (moves ++ more) :=
  List.forall_mem_append.mpr ⟨h, hmore⟩

namespace Tells

variable {r : SpanRecord}

end Tells

/-- The records of a whole run are those of the spans that have ended whose roots were sampled. -/
theorem forall₂_of_recounts {moves : List (Nat × SpanMove)} {reports : List SpanReport}
    (h : List.Forall₂ (fun m report => t.Recounts m.1 report) moves reports) :
    List.Forall₂ (fun i r => ∃ now l, t.Tells i now l r) ((reports.flatMap (·.ended)).filter t.isSampled)
      (reports.flatMap (·.records)) := by
  induction h with
  | nil => exact .nil
  | @cons m report moves reports hfirst hrest ih =>
    rw [List.flatMap_cons, List.flatMap_cons, List.filter_append]
    exact List.rel_append (hfirst.imp fun i r hr => ⟨m.1, hr⟩) ih

end SpanStory

namespace SpanHandles

open SpanForest

variable {s s' : SpanHandles} {t : SpanStory} {m : SpanMove} {now i : Nat} {report : SpanReport}

theorem add_of_letsGo (h : m.letsGo) : t.add (now, m) = t := by
  cases m with
  | leave i => rfl
  | drop i => rfl
  | start kind parent fields draw => cases h
  | record i fields => cases h
  | hold i => cases h
  | enter i => cases h

/-- The spans stay as they are told. -/
theorem Moves.follows (h : s.Moves now m report s') (ht : t.Follows s.forest) :
    (t.add (now, m)).Follows s'.forest := by
  cases h with
  | @unwanted kind parent fields draw hw =>
    have hwanted : ¬ (t.exportLimit.admits kind.level || t.logLimit.admits kind.level) = true := by
      rw [← ht.exportLimit_eq, ← ht.logLimit_eq, ← wants, hw]
      exact Bool.false_ne_true
    rw [SpanStory.add, if_neg hwanted]
    exact ht
  | start hw hparent => exact ht.start hw hparent
  | record hopen => exact ht.setFields
  | hold hopen => exact ht.congr outline_hold attributes_hold
  | enter hopen => exact ht.congr outline_enter attributes_hold
  | ends hm hends hkept =>
    rw [add_of_letsGo hm]
    exact ht.congr hends.outline_eq hends.attributes_eq

/-- The records of a move are those of the spans that it ends. -/
theorem Moves.recounts (h : s.Moves now m report s') (ht : t.Follows s.forest) :
    (t.add (now, m)).Recounts now report := by
  cases h with
  | unwanted hw => exact .nil
  | start hw hparent => exact .nil
  | record hopen => exact .nil
  | hold hopen => exact .nil
  | enter hopen => exact .nil
  | ends hm hends hkept =>
    rw [add_of_letsGo hm, SpanStory.Recounts, hends.records_eq]
    refine SpanStory.forall₂_filterMap fun j hj => ?_
    obtain ⟨n, hn, -⟩ := isOpen_iff.mp ((hends.mem_iff j).mp hj).1
    obtain ⟨l, hl⟩ : ∃ l, t.lives[j]? = some l :=
      ⟨_, List.getElem?_eq_getElem (ht.length_eq ▸ (List.getElem?_eq_some_iff.mp hn).1)⟩
    have hrecord := (ht.shown j l n hl hn).record?_eq hl now
    rw [hn, Option.bind_some]
    split
    · next hsampled =>
      rw [if_pos hsampled] at hrecord
      obtain ⟨r, hr, htells⟩ := hrecord
      exact ⟨r, hr, l, htells⟩
    · next hsampled =>
      rw [if_neg hsampled] at hrecord
      exact hrecord

/-- Nothing more is told of a span that has ended. -/
theorem Moves.lives_eq (h : s.Moves now m report s') (hi : i < t.lives.length)
    (hclosed : ¬ s.forest.isOpen i) :
    (t.add (now, m)).lives[i]? = t.lives[i]? := by
  cases h with
  | unwanted hw =>
    rw [SpanStory.add]
    split
    · exact List.getElem?_append_left hi
    · rfl
  | start hw hparent =>
    rw [SpanStory.add]
    split
    · exact List.getElem?_append_left hi
    · rfl
  | @record j fields hopen =>
    have hne : j ≠ i := by
      rintro rfl
      exact hclosed hopen
    simp only [SpanStory.add, List.getElem?_modify, hne, if_false, Option.map_eq_map, Option.map_id']
  | hold hopen => rfl
  | enter hopen => rfl
  | ends hm hends hkept => rw [add_of_letsGo hm]

variable {sampler : Sampler} {exportLimit logLimit : LevelLimit} {moves : List (Nat × SpanMove)}
  {reports : List SpanReport}

/-- What is told in a run is how the spans are, and its reports recount it. -/
theorem story_of_run (h : (new sampler exportLimit logLimit).run? moves = some (reports, s)) :
    ((SpanStory.new sampler exportLimit logLimit).after moves).Follows s.forest ∧
      List.Forall₂ (fun m report =>
        ((SpanStory.new sampler exportLimit logLimit).after moves).Recounts m.1 report) moves reports := by
  refine History.run?_induction (P := fun moves reports s =>
    ((SpanStory.new sampler exportLimit logLimit).after moves).Follows s.forest ∧
      List.Forall₂ (fun m report =>
        ((SpanStory.new sampler exportLimit logLimit).after moves).Recounts m.1 report) moves reports)
    ⟨⟨rfl, rfl, rfl, rfl, nofun⟩, .nil⟩ (fun es os s e report s' hrun ih hstep => ?_) h
  obtain ⟨hfollows, hrecounts⟩ := ih
  generalize ht : (SpanStory.new sampler exportLimit logLimit).after es = t at hfollows hrecounts
  have hadd : (SpanStory.new sampler exportLimit logLimit).after (es ++ [e]) = t.add e := by
    rw [← ht, SpanStory.after, List.foldl_append]
    rfl
  have hmoves := moves_of_move? (kept_of_run hrun) hstep
  have hended := (ended_of_run hrun).2
  have hbefore : List.Forall₂ (fun m report => (t.add e).Recounts m.1 report) es os := by
    obtain ⟨hlength, hrecounts⟩ := List.forall₂_iff_zip.mp hrecounts
    refine List.forall₂_iff_zip.mpr ⟨hlength, fun {m report} hm => ?_⟩
    have hreport : report ∈ os := (List.of_mem_zip hm).2
    refine (hrecounts hm).extends (t.extends_add e) fun i hi => ?_
    obtain ⟨hlt, hclosed⟩ := (hended i).mp (List.mem_flatMap.mpr ⟨report, hreport, hi⟩)
    have hlt : i < t.lives.length := hfollows.length_eq ▸ hlt
    exact ⟨hlt, hmoves.lives_eq hlt hclosed⟩
  rw [hadd]
  exact ⟨hmoves.follows hfollows, List.rel_append hbefore (.cons (hmoves.recounts hfollows) .nil)⟩

/-- The records of a run tell of spans that were sampled and exported, and each of these that has ended is
told of. -/
theorem recorded_of_run (h : (new sampler exportLimit logLimit).run? moves = some (reports, s)) :
    (∀ r ∈ reports.flatMap (·.records), ∃ n ∈ s.forest.nodes,
      (n.exported && n.context.sampled) = true ∧ n.Tells r) ∧
    ∀ i n, s.forest.nodes[i]? = some n → ¬ s.forest.isOpen i →
      (n.exported && n.context.sampled) = true → ∃ r ∈ reports.flatMap (·.records), n.Tells r := by
  obtain ⟨hfollows, hrecounts⟩ := story_of_run h
  have htold := SpanStory.forall₂_of_recounts hrecounts
  generalize (SpanStory.new sampler exportLimit logLimit).after moves = t at hfollows htold
  refine ⟨fun r hr => ?_, fun i n hget hclosed hsampled => ?_⟩
  · obtain ⟨i, hi, now, l, htells⟩ := SpanStory.exists_mem_left htold hr
    have hlt : i < s.forest.nodes.length := by
      rw [hfollows.length_eq]
      exact (List.getElem?_eq_some_iff.mp htells.life_eq).1
    have hget := List.getElem?_eq_getElem hlt
    have hshows := hfollows.shown i l _ htells.life_eq hget
    refine ⟨_, List.getElem_mem hlt, ?_, hshows.tells htells⟩
    rw [← hshows.isSampled_eq htells.life_eq]
    exact (List.mem_filter.mp hi).2
  · have hlt := (List.getElem?_eq_some_iff.mp hget).1
    have hlife := List.getElem?_eq_getElem (hfollows.length_eq ▸ hlt)
    have hshows := hfollows.shown i _ n hlife hget
    have hended : i ∈ reports.flatMap (·.ended) := ((ended_of_run h).2 i).mpr ⟨hlt, hclosed⟩
    have hchosen : i ∈ (reports.flatMap (·.ended)).filter t.isSampled :=
      List.mem_filter.mpr ⟨hended, (hshows.isSampled_eq hlife).trans hsampled⟩
    obtain ⟨r, hr, now, l, htells⟩ := SpanStory.exists_mem_left htold.flip hchosen
    obtain rfl := Option.some.inj (htells.life_eq.symm.trans hlife)
    exact ⟨r, hr, hshows.tells htells⟩

end SpanHandles

end MetricsGateway
