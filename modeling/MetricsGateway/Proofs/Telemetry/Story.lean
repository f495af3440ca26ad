import Mathlib.Data.List.Induction
import Mathlib.Data.String.Basic
import MetricsGateway.Proofs.Telemetry.Handles

/-!
What a program tells of its spans, without regard to what holds them, and what their records say then. The
spans of a trace lie one above the other up to its root, which decides for all of them whether they are
sampled.
-/

namespace MetricsGateway

/-! ## Attributes -/

section Keys

variable {α : Type} {key other : String} {value : α} {members : List (String × α)}

theorem lookup_cons_eq : ((key, value) :: members).lookup other =
    if other = key then some value else members.lookup other := by
  by_cases h : other = key
  · simp [h]
  · simp [List.lookup_cons, beq_eq_false_iff_ne.mpr h, h]

theorem lookup_insertByKey : (insertByKey key value members).lookup other =
    if other = key then some value else members.lookup other := by
  induction members with
  | nil => exact lookup_cons_eq
  | cons member rest ih =>
    obtain ⟨k, v⟩ := member
    rw [insertByKey, lookup_cons_eq]
    by_cases hk : key = k
    · rw [if_pos hk, lookup_cons_eq]
      by_cases h : other = key <;> simp [h, ← hk]
    · by_cases hlt : key < k
      · rw [if_neg hk, if_pos hlt, lookup_cons_eq, lookup_cons_eq]
      · rw [if_neg hk, if_neg hlt, lookup_cons_eq, ih]
        by_cases h : other = key
        · simp [h, hk]
        · simp [h]

theorem mem_of_mem_insertByKey {member : String × α} (h : member ∈ insertByKey key value members) :
    member = (key, value) ∨ member ∈ members := by
  induction members with
  | nil => exact .inl (List.mem_singleton.mp h)
  | cons first rest ih =>
    obtain ⟨k, v⟩ := first
    rw [insertByKey] at h
    split at h
    · exact (List.mem_cons.mp h).imp_right (List.mem_cons_of_mem _)
    · split at h
      · exact List.mem_cons.mp h
      · obtain rfl | h := List.mem_cons.mp h
        · exact .inr List.mem_cons_self
        · exact (ih h).imp_right (List.mem_cons_of_mem _)

theorem pairwise_insertByKey (h : members.Pairwise fun a b => a.1 < b.1) :
    (insertByKey key value members).Pairwise fun a b => a.1 < b.1 := by
  induction members with
  | nil => exact List.pairwise_singleton _ _
  | cons member rest ih =>
    obtain ⟨k, v⟩ := member
    obtain ⟨hfirst, hrest⟩ := List.pairwise_cons.mp h
    rw [insertByKey]
    split
    · next heq => exact List.pairwise_cons.mpr ⟨heq ▸ hfirst, hrest⟩
    · next hne =>
      split
      · next hlt =>
        refine List.pairwise_cons.mpr ⟨fun b hb => ?_, h⟩
        obtain rfl | hb := List.mem_cons.mp hb
        · exact hlt
        · exact lt_trans hlt (hfirst b hb)
      · next hnlt =>
        refine List.pairwise_cons.mpr ⟨fun b hb => ?_, ih hrest⟩
        obtain rfl | hb := mem_of_mem_insertByKey hb
        · exact lt_of_le_of_ne (not_lt.mp hnlt) (Ne.symm hne)
        · exact hfirst b hb

end Keys

/-- The attributes that fields leave, recorded one after the other. -/
def SpanNode.attributesOf (fields : Fields) : List (String × Json) :=
  fields.foldl (fun kept (name, v) => insertByKey name (attributeValue v) kept) []

namespace SpanNode

variable {fields more : Fields} {name : String}

theorem attributesOf_concat {v : FieldValue} : attributesOf (fields ++ [(name, v)]) =
    insertByKey name (attributeValue v) (attributesOf fields) := by
  rw [attributesOf, List.foldl_append]
  rfl

/-- The last value of a field is its attribute. -/
theorem lookup_attributesOf :
    (attributesOf fields).lookup name = (fields.reverse.lookup name).map attributeValue := by
  induction fields using List.reverseRecOn with
  | nil => rfl
  | append_singleton fields field ih =>
    obtain ⟨key, v⟩ := field
    rw [attributesOf_concat, lookup_insertByKey, List.reverse_append, List.reverse_singleton,
      List.singleton_append, lookup_cons_eq, ih]
    split
    · rfl
    · rfl

/-- Each attribute stands once, in the order of the names. -/
theorem pairwise_attributesOf : (attributesOf fields).Pairwise fun a b => a.1 < b.1 := by
  induction fields using List.reverseRecOn with
  | nil => exact .nil
  | append_singleton fields field ih =>
    obtain ⟨key, v⟩ := field
    rw [attributesOf_concat]
    exact pairwise_insertByKey ih

theorem attributes_withFields {n : SpanNode} (h : n.attributes = attributesOf fields) :
    (n.withFields more).attributes = attributesOf (fields ++ more) := by
  rw [withFields, attributesOf, List.foldl_append, h]
  rfl

end SpanNode

/-! ## Stories -/

/-- What a program tells of a span: where it was made, and the fields that were recorded on it, one after
the other. -/
structure SpanLife where
  kind : SpanKind
  parent : Option Nat
  draw : SpanDraw
  start : Nat
  fields : Fields

/-- The settings, and the spans in the order in which they were made. -/
structure SpanStory where
  sampler : Sampler
  exportLimit : LevelLimit
  logLimit : LevelLimit
  lives : List SpanLife

namespace SpanStory

def new (sampler : Sampler) (exportLimit logLimit : LevelLimit) : SpanStory :=
  ⟨sampler, exportLimit, logLimit, []⟩

/-- A move is told. Spans that nobody wants are passed over. -/
def add (t : SpanStory) : Nat × SpanMove → SpanStory
  | (now, .start kind parent fields draw) =>
    if t.exportLimit.admits kind.level || t.logLimit.admits kind.level then
      { t with lives := t.lives ++ [⟨kind, parent, draw, now, fields⟩] }
    else t
  | (_, .record i fields) =>
    { t with lives := t.lives.modify i fun l => { l with fields := l.fields ++ fields } }
  | _ => t

def after (t : SpanStory) (moves : List (Nat × SpanMove)) : SpanStory := moves.foldl add t

def draw (t : SpanStory) (i : Nat) : SpanDraw := (t.lives[i]?.map (·.draw)).getD ⟨0, 0, 0⟩

def isExported (t : SpanStory) (i : Nat) : Bool :=
  t.lives[i]?.any fun l => t.exportLimit.admits l.kind.level

/-- The exported spans above a span, the closest first. -/
def above (t : SpanStory) (i : Nat) : List Nat :=
  match t.lives[i]?.bind (·.parent) with
  | none => []
  | some p =>
    if _h : p < i then (if t.isExported p then [p] else []) ++ t.above p else []
  termination_by i

/-- The root of the trace that a span belongs to: the last one above it, or the span itself. -/
def root (t : SpanStory) (i : Nat) : Nat := (t.above i).getLastD i

/-- The number of the closest exported span above a span. -/
def parentSpanId (t : SpanStory) (i : Nat) : Option Nat :=
  (t.above i).head?.map fun p => (t.draw p).spanId

/-- An exported span whose root was sampled. -/
def isSampled (t : SpanStory) (i : Nat) : Bool :=
  t.isExported i && t.sampler.samples (t.draw (t.root i)).chance

/-- What the record of a span says that ended at some time. -/
structure Tells (t : SpanStory) (i now : Nat) (l : SpanLife) (r : SpanRecord) : Prop where
  life_eq : t.lives[i]? = some l
  name_eq : r.name = l.kind.name
  target_eq : r.target = l.kind.target
  start_eq : r.start = l.start
  finish_eq : r.finish = now
  traceId_eq : r.traceId = Text.hexPadded 32 (t.draw (t.root i)).traceId
  spanId_eq : r.spanId = Text.hexPadded 16 l.draw.spanId
  parentSpanId_eq : r.parentSpanId = (t.parentSpanId i).map (Text.hexPadded 16)
  lookup_eq : ∀ name, r.attributes.lookup name = (l.fields.reverse.lookup name).map SpanNode.attributeValue
  pairwise : r.attributes.Pairwise fun a b => a.1 < b.1

variable {t u : SpanStory} {i p : Nat} {l : SpanLife}

theorem above_eq : t.above i =
    match t.lives[i]?.bind (·.parent) with
    | none => []
    | some p => if p < i then (if t.isExported p then [p] else []) ++ t.above p else [] := by
  rw [above]
  cases t.lives[i]?.bind (·.parent) with
  | none => rfl
  | some p =>
    simp only
    split <;> rfl

/-- Further spans were added, and fields recorded, at most. -/
structure Extends (t u : SpanStory) : Prop where
  sampler_eq : u.sampler = t.sampler
  exportLimit_eq : u.exportLimit = t.exportLimit
  logLimit_eq : u.logLimit = t.logLimit
  life : ∀ (i : Nat) (l : SpanLife), t.lives[i]? = some l →
    ∃ fields, u.lives[i]? = some { l with fields := l.fields ++ fields }

namespace Extends

theorem draw_eq (h : t.Extends u) (hi : i < t.lives.length) : u.draw i = t.draw i := by
  have hl := List.getElem?_eq_getElem hi
  obtain ⟨fields, hu⟩ := h.life i _ hl
  rw [draw, draw, hu, hl]
  rfl

theorem isExported_eq (h : t.Extends u) (hi : i < t.lives.length) : u.isExported i = t.isExported i := by
  have hl := List.getElem?_eq_getElem hi
  obtain ⟨fields, hu⟩ := h.life i _ hl
  rw [isExported, isExported, hu, hl, h.exportLimit_eq]
  rfl

theorem above_eq (h : t.Extends u) (hi : i < t.lives.length) : u.above i = t.above i := by
  induction i using Nat.strongRecOn with
  | _ i ih =>
    have hl := List.getElem?_eq_getElem hi
    obtain ⟨fields, hu⟩ := h.life i _ hl
    rw [SpanStory.above_eq, SpanStory.above_eq, hu, hl, Option.bind_some, Option.bind_some]
    cases t.lives[i].parent with
    | none => rfl
    | some p =>
      simp only
      split
      · next hp => rw [ih p hp (Nat.lt_trans hp hi), h.isExported_eq (Nat.lt_trans hp hi)]
      · rfl

end Extends

/-- The closest span above a span has the further ones above it. -/
theorem above_of_cons {q : Nat} {rest : List Nat} (h : t.above i = q :: rest) : t.above q = rest := by
  induction i using Nat.strongRecOn with
  | _ i ih =>
    rw [above_eq] at h
    split at h
    · cases h
    · next p _ =>
      split at h
      · next hp =>
        split at h
        · obtain ⟨rfl, rfl⟩ := List.cons.inj h
          rfl
        · exact ih p hp h
      · cases h

/-- A span belongs to the trace of the span above it. -/
theorem root_of_head? {q : Nat} (h : (t.above i).head? = some q) : t.root i = t.root q := by
  obtain ⟨rest, hrest⟩ := List.head?_eq_some_iff.mp h
  rw [root, root, above_of_cons hrest, hrest, List.getLastD_cons]

theorem lt_of_mem_above (h : p ∈ t.above i) : p < i := by
  induction i using Nat.strongRecOn with
  | _ i ih =>
    rw [above_eq] at h
    split at h
    · cases h
    · next q _ =>
      split at h
      · next hq =>
        obtain h | h := List.mem_append.mp h
        · split at h
          · exact List.mem_singleton.mp h ▸ hq
          · cases h
        · exact Nat.lt_trans (ih q hq h) hq
      · cases h

theorem root_le : t.root i ≤ i := by
  rw [root, List.getLastD_eq_getLast?]
  cases h : (t.above i).getLast? with
  | none => exact Nat.le_refl i
  | some p => exact Nat.le_of_lt (lt_of_mem_above (List.mem_of_getLast? h))

namespace Extends

theorem root_eq (h : t.Extends u) (hi : i < t.lives.length) : u.root i = t.root i := by
  rw [root, root, h.above_eq hi]

theorem isSampled_eq (h : t.Extends u) (hi : i < t.lives.length) : u.isSampled i = t.isSampled i := by
  rw [isSampled, isSampled, h.isExported_eq hi, h.root_eq hi, h.sampler_eq,
    h.draw_eq (Nat.lt_of_le_of_lt root_le hi)]

theorem parentSpanId_eq (h : t.Extends u) (hi : i < t.lives.length) :
    u.parentSpanId i = t.parentSpanId i := by
  rw [parentSpanId, parentSpanId, h.above_eq hi]
  cases hp : (t.above i).head? with
  | none => rfl
  | some p =>
    have hlt := lt_of_mem_above (List.mem_of_head? hp)
    rw [Option.map_some, Option.map_some, h.draw_eq (Nat.lt_trans hlt hi)]

/-- What a record says of a span stays true as long as nothing more is recorded on the span. -/
theorem tells {now : Nat} {r : SpanRecord} (h : t.Extends u) (hsame : u.lives[i]? = t.lives[i]?)
    (ht : t.Tells i now l r) : u.Tells i now l r := by
  have hi := (List.getElem?_eq_some_iff.mp ht.life_eq).1
  refine ⟨hsame.trans ht.life_eq, ht.name_eq, ht.target_eq, ht.start_eq, ht.finish_eq, ?_, ht.spanId_eq,
    ?_, ht.lookup_eq, ht.pairwise⟩
  · rw [h.root_eq hi, h.draw_eq (Nat.lt_of_le_of_lt root_le hi), ht.traceId_eq]
  · rw [h.parentSpanId_eq hi, ht.parentSpanId_eq]

end Extends

theorem extends_of_lives {lives : List SpanLife} (h : ∀ (i : Nat) (l : SpanLife), t.lives[i]? = some l →
    ∃ fields, lives[i]? = some { l with fields := l.fields ++ fields }) :
    t.Extends { t with lives } := ⟨rfl, rfl, rfl, h⟩

theorem extends_add (m : Nat × SpanMove) : t.Extends (t.add m) := by
  have hrefl : t.Extends t := extends_of_lives fun i l hl => ⟨[], by rw [hl, List.append_nil]⟩
  obtain ⟨now, m⟩ := m
  cases m with
  | start kind parent fields draw =>
    rw [add]
    split
    · refine extends_of_lives fun i l hl => ⟨[], ?_⟩
      rw [List.getElem?_append_left (List.getElem?_eq_some_iff.mp hl).1, hl, List.append_nil]
    · exact hrefl
  | record i fields =>
    refine extends_of_lives fun j l hl => ?_
    rw [List.getElem?_modify, hl]
    by_cases hij : i = j
    · exact ⟨fields, by simp [hij]⟩
    · exact ⟨[], by simp [hij]⟩
  | hold i => exact hrefl
  | enter i => exact hrefl
  | leave i => exact hrefl
  | drop i => exact hrefl

/-! ## Stories of forests -/

/-- What children take over from a span. -/
def contextOf (t : SpanStory) (i : Nat) : SpanContext :=
  ⟨(t.draw (t.root i)).traceId, (t.draw i).spanId, t.sampler.samples (t.draw (t.root i)).chance⟩

/-- The span is as it was told. -/
structure Shows (t : SpanStory) (i : Nat) (l : SpanLife) (n : SpanNode) : Prop where
  kind_eq : n.kind = l.kind
  parent_eq : n.parent = l.parent
  exported_eq : n.exported = t.exportLimit.admits l.kind.level
  context_eq : n.context = t.contextOf i
  parentSpanId_eq : n.parentSpanId = t.parentSpanId i
  start_eq : n.start = l.start
  attributes_eq : n.attributes = SpanNode.attributesOf l.fields

/-- The spans of a forest are those that were told, and parents are older. -/
structure Follows (t : SpanStory) (f : SpanForest) : Prop where
  sampler_eq : f.sampler = t.sampler
  exportLimit_eq : f.exportLimit = t.exportLimit
  logLimit_eq : f.logLimit = t.logLimit
  length_eq : f.nodes.length = t.lives.length
  shown : ∀ (i : Nat) (l : SpanLife) (n : SpanNode), t.lives[i]? = some l → f.nodes[i]? = some n →
    t.Shows i l n

theorem draw_of_getElem? (h : t.lives[i]? = some l) : t.draw i = l.draw := by
  rw [draw, h]
  rfl

theorem isExported_of_getElem? (h : t.lives[i]? = some l) :
    t.isExported i = t.exportLimit.admits l.kind.level := by
  rw [isExported, h]
  rfl

namespace Extends

theorem shows_withFields {n : SpanNode} {fields : Fields} (h : t.Extends u) (hi : i < t.lives.length)
    (hn : t.Shows i l n) : u.Shows i { l with fields := l.fields ++ fields }
      (n.withFields fields) := by
  have hdraw : u.draw (u.root i) = t.draw (t.root i) := by
    rw [h.root_eq hi, h.draw_eq (Nat.lt_of_le_of_lt root_le hi)]
  refine ⟨hn.kind_eq, hn.parent_eq, h.exportLimit_eq ▸ hn.exported_eq, ?_,
    hn.parentSpanId_eq.trans (h.parentSpanId_eq hi).symm, hn.start_eq,
    SpanNode.attributes_withFields hn.attributes_eq⟩
  rw [contextOf, hdraw, h.draw_eq hi, h.sampler_eq]
  exact hn.context_eq

theorem shows {n : SpanNode} (h : t.Extends u) (hi : i < t.lives.length) (hn : t.Shows i l n) :
    u.Shows i l n := by
  have hnone : u.Shows i { l with fields := l.fields ++ [] } (n.withFields []) := h.shows_withFields hi hn
  rwa [List.append_nil] at hnone

end Extends

namespace Follows

variable {f g : SpanForest} {fields : Fields} {kind : SpanKind} {parent : Option Nat} {draw : SpanDraw}
  {now : Nat}

/-- A span is as it was told, whatever holds it. -/
theorem congr (h : t.Follows f) (hout : g.outline = f.outline)
    (hattributes : g.nodes.map (·.attributes) = f.nodes.map (·.attributes)) : t.Follows g := by
  refine ⟨(congrArg (·.sampler) hout).trans h.sampler_eq,
    (congrArg (·.exportLimit) hout).trans h.exportLimit_eq,
    (congrArg (·.logLimit) hout).trans h.logLimit_eq,
    (SpanForest.length_nodes_of_outline hout).trans h.length_eq, fun i l m hl hm => ?_⟩
  have hnodes := congrArg (fun o => o.nodes[i]?) hout
  have hkept := congrArg (·[i]?) hattributes
  simp only [SpanForest.outline, List.getElem?_map, hm, Option.map_some, eq_comm (a := some _),
    Option.map_eq_some_iff] at hnodes hkept
  obtain ⟨n, hn, hsame⟩ := hnodes
  obtain ⟨k, hk, hattr⟩ := hkept
  obtain rfl : n = k := Option.some.inj (hn.symm.trans hk)
  have hshows := h.shown i l n hl hn
  simp only [SpanNode.outline, SpanNode.mk.injEq] at hsame
  obtain ⟨hkind, hparent, -, hexported, hcontext, hparentId, hstart, -⟩ := hsame
  exact ⟨hkind ▸ hshows.kind_eq, hparent ▸ hshows.parent_eq, hexported ▸ hshows.exported_eq,
    hcontext ▸ hshows.context_eq, hparentId ▸ hshows.parentSpanId_eq, hstart ▸ hshows.start_eq,
    hattr ▸ hshows.attributes_eq⟩

/-- What a span takes over is what the closest exported span hands on, from its parent upwards. -/
theorem contextFrom?_eq (h : t.Follows f) (hi : i < f.nodes.length) : f.contextFrom? i =
    ((if t.isExported i then [i] else []) ++ t.above i).head?.map t.contextOf := by
  induction i using Nat.strongRecOn with
  | _ i ih =>
    have hn := List.getElem?_eq_getElem hi
    obtain ⟨l, hl⟩ : ∃ l, t.lives[i]? = some l := ⟨_, List.getElem?_eq_getElem (h.length_eq ▸ hi)⟩
    have hshows := h.shown i l _ hl hn
    rw [SpanForest.contextFrom?_eq, hn, Option.bind_some, hshows.exported_eq, ← isExported_of_getElem? hl]
    split
    · rw [hshows.context_eq]
      rfl
    · rw [List.nil_append, above_eq, hl, Option.bind_some, hshows.parent_eq]
      cases l.parent with
      | none => rfl
      | some p =>
        simp only [Option.bind_some]
        split
        · next hp => rw [ih p hp (Nat.lt_trans hp hi)]
        · rfl

theorem setFields (h : t.Follows f) : (t.add (now, .record i fields)).Follows (f.setFields i fields) := by
  have hext := t.extends_add (now, .record i fields)
  refine ⟨h.sampler_eq, h.exportLimit_eq, h.logLimit_eq, ?_, fun j l n hl hn => ?_⟩
  · simp only [SpanForest.setFields, add, List.length_modify]
    exact h.length_eq
  · simp only [SpanForest.setFields, add, List.getElem?_modify, Option.map_eq_map,
      Option.map_eq_some_iff] at hl hn
    obtain ⟨before, hbefore, rfl⟩ := hl
    obtain ⟨node, hnode, rfl⟩ := hn
    have hshows := h.shown j before node hbefore hnode
    have hj := (List.getElem?_eq_some_iff.mp hbefore).1
    by_cases hij : i = j
    · simp only [hij, if_true]
      exact (hij ▸ hext).shows_withFields hj hshows
    · simp only [hij, if_false]
      exact hext.shows hj hshows

theorem add_start (h : t.Follows f) (hw : f.wants kind.level = true) :
    t.add (now, .start kind parent fields draw) =
      { t with lives := t.lives ++ [⟨kind, parent, draw, now, fields⟩] } := by
  have hwanted : (t.exportLimit.admits kind.level || t.logLimit.admits kind.level) = true := by
    rw [← h.exportLimit_eq, ← h.logLimit_eq]
    exact hw
  rw [add, if_pos hwanted]

/-- A new span takes over from the closest exported span, or is a root. -/
theorem shows_started (h : t.Follows f) (hw : f.wants kind.level = true)
    (hparent : ∀ p, parent = some p → f.isOpen p) :
    (t.add (now, .start kind parent fields draw)).Shows t.lives.length ⟨kind, parent, draw, now, fields⟩
      (f.started kind parent fields draw now) := by
  have hext := t.extends_add (now, .start kind parent fields draw)
  generalize hu : t.add (now, .start kind parent fields draw) = u at hext ⊢
  have hl : u.lives[t.lives.length]? = some ⟨kind, parent, draw, now, fields⟩ := by
    rw [← hu, h.add_start hw, List.getElem?_concat_length]
  have habove : parent.bind f.contextFrom? = (u.above t.lives.length).head?.map t.contextOf := by
    rw [above_eq, hl, Option.bind_some]
    cases parent with
    | none => rfl
    | some p =>
      have hp := SpanForest.lt_of_isOpen (hparent p rfl)
      have hlt : p < t.lives.length := h.length_eq ▸ hp
      simp only [Option.bind_some, hlt, if_true]
      rw [h.contextFrom?_eq hp, hext.isExported_eq hlt, hext.above_eq hlt]
  have hdraw : u.draw t.lives.length = draw := draw_of_getElem? hl
  have hlt {q : Nat} (hq : (u.above t.lives.length).head? = some q) : q < t.lives.length :=
    lt_of_mem_above (List.mem_of_head? hq)
  refine ⟨rfl, rfl, ?_, ?_, ?_, rfl, rfl⟩
  · rw [hext.exportLimit_eq, ← h.exportLimit_eq]
    rfl
  · change (f.starting kind parent draw now).context = _
    simp only [SpanForest.starting, habove, contextOf]
    cases hq : (u.above t.lives.length).head? with
    | none =>
      have hroot : u.root t.lives.length = t.lives.length := by
        rw [root, List.head?_eq_none_iff.mp hq, List.getLastD_nil]
      rw [hroot, hdraw, h.sampler_eq, ← hext.sampler_eq]
      rfl
    | some q =>
      have hroot : u.draw (u.root t.lives.length) = t.draw (t.root q) := by
        rw [root_of_head? hq, hext.root_eq (hlt hq),
          hext.draw_eq (Nat.lt_of_le_of_lt root_le (hlt hq))]
      rw [hroot, hdraw, hext.sampler_eq]
      rfl
  · change (f.starting kind parent draw now).parentSpanId = _
    simp only [SpanForest.starting, habove, parentSpanId]
    cases hq : (u.above t.lives.length).head? with
    | none => rfl
    | some q =>
      rw [Option.map_some, Option.map_some, Option.map_some, hext.draw_eq (hlt hq)]
      rfl

theorem start (h : t.Follows f) (hw : f.wants kind.level = true)
    (hparent : ∀ p, parent = some p → f.isOpen p) :
    (t.add (now, .start kind parent fields draw)).Follows (f.start kind parent fields draw now).2 := by
  have hheld : t.Follows (f.holding parent) :=
    h.congr SpanForest.outline_holding SpanForest.attributes_holding
  have hnew : (t.add (now, .start kind parent fields draw)).Shows _ _ _ := h.shows_started hw hparent
  have hext := t.extends_add (now, .start kind parent fields draw)
  have hlives : t.add (now, .start kind parent fields draw) = _ := h.add_start hw
  generalize hu : t.add (now, .start kind parent fields draw) = u at hext hnew hlives ⊢
  rw [SpanForest.start_eq hw]
  refine ⟨hheld.sampler_eq.trans hext.sampler_eq.symm, hheld.exportLimit_eq.trans hext.exportLimit_eq.symm,
    hheld.logLimit_eq.trans hext.logLimit_eq.symm, ?_, fun j l n hl hn => ?_⟩
  · simp [hlives, hheld.length_eq]
  · simp only [hlives] at hl
    simp only at hn
    obtain ⟨hlast, rfl⟩ | ⟨hj, hl⟩ := getElem?_concat_eq_some_iff.mp hl
    · rw [hlast, ← hheld.length_eq, List.getElem?_concat_length] at hn
      obtain rfl := Option.some.inj hn
      exact hlast ▸ hnew
    · rw [List.getElem?_append_left (hheld.length_eq ▸ hj)] at hn
      exact hext.shows hj (hheld.shown j l n hl hn)

end Follows

end SpanStory

end MetricsGateway
