import Mathlib.Data.List.Perm.Basic
import MetricsGateway.Proofs.Telemetry.Outline

/-!
What holds spans open: what is counted for them, and their open children. Letting go of a span ends spans
from it upwards, as far as nothing else holds them, and each of them leaves its record.
-/

namespace MetricsGateway

theorem getElem?_concat_eq_some_iff {α : Type} {as : List α} {a b : α} {j : Nat} :
    (as ++ [a])[j]? = some b ↔ j = as.length ∧ b = a ∨ j < as.length ∧ as[j]? = some b := by
  obtain hj | rfl | hj := Nat.lt_trichotomy j as.length
  · simp [List.getElem?_append_left hj, hj, Nat.ne_of_lt hj]
  · simp [eq_comm]
  · have hnone : (as ++ [a])[j]? = none := List.getElem?_eq_none (by simpa using Nat.succ_le_of_lt hj)
    simp [hnone, Nat.ne_of_gt hj, Nat.lt_asymm hj]

namespace SpanForest

variable {f g : SpanForest} {i j p now : Nat} {n m : SpanNode} {count : Nat → Nat}

theorem isOpen_iff : f.isOpen i ↔ ∃ n, f.nodes[i]? = some n ∧ 0 < n.holds := by
  simp [isOpen, Option.any_eq_true]

theorem isOpen_of_getElem? (h : f.nodes[i]? = some n) : f.isOpen i = decide (0 < n.holds) := by
  rw [isOpen, h]
  rfl

theorem lt_of_isOpen (h : f.isOpen i) : i < f.nodes.length := by
  obtain ⟨n, hn, -⟩ := isOpen_iff.mp h
  exact (List.getElem?_eq_some_iff.mp hn).1

/-- An open span that was made with this parent. -/
def IsChild (i : Nat) (n : SpanNode) : Bool := n.parent = some i && 0 < n.holds

/-- How many children of a span are open. -/
def openChildren (f : SpanForest) (i : Nat) : Nat := f.nodes.countP (IsChild i)

/-- Parents are older, and a span is held as often as is counted for it, and once by each open child. -/
structure Held (f : SpanForest) (count : Nat → Nat) : Prop where
  parent_lt : ∀ (i : Nat) (n : SpanNode) (p : Nat), f.nodes[i]? = some n → n.parent = some p → p < i
  holds_eq : ∀ (i : Nat) (n : SpanNode), f.nodes[i]? = some n → n.holds = count i + f.openChildren i
  lt_length : ∀ i, 0 < count i → i < f.nodes.length

/-- The forest with another span at a place. -/
def withNode (f : SpanForest) (i : Nat) (n : SpanNode) : SpanForest :=
  { f with nodes := f.nodes.set i n }

/-- The span at a place is held once less. -/
def lessened (f : SpanForest) (i : Nat) (n : SpanNode) : SpanForest :=
  f.withNode i { n with holds := n.holds - 1 }

theorem getElem?_withNode (h : f.nodes[i]? = some n) :
    (f.withNode i m).nodes[j]? = if i = j then some m else f.nodes[j]? := by
  rw [withNode, List.getElem?_set]
  by_cases hij : i = j
  · rw [if_pos hij, if_pos hij, if_pos (List.getElem?_eq_some_iff.mp h).1]
  · rw [if_neg hij, if_neg hij]

theorem openChildren_withNode (h : f.nodes[i]? = some n) :
    (f.withNode i m).openChildren j + (if IsChild j n then 1 else 0) =
      f.openChildren j + if IsChild j m then 1 else 0 := by
  obtain ⟨hi, rfl⟩ := List.getElem?_eq_some_iff.mp h
  have hnew := (List.set_perm_cons_eraseIdx hi m).countP_eq (IsChild j)
  have hold := (List.getElem_cons_eraseIdx_perm hi).countP_eq (IsChild j)
  rw [List.countP_cons] at hnew hold
  simp only [openChildren, withNode]
  omega

theorem isOpen_withNode (h : f.nodes[i]? = some n) :
    (f.withNode i m).isOpen j = if i = j then decide (0 < m.holds) else f.isOpen j := by
  rw [isOpen, getElem?_withNode h]
  split
  · rfl
  · rfl

namespace Held

theorem congr {count' : Nat → Nat} (h : f.Held count) (hcount : ∀ j, count' j = count j) : f.Held count' :=
  funext hcount ▸ h

theorem withEntered (h : f.Held count) (entered : List (Nat × Bool)) :
    ({ f with entered } : SpanForest).Held count := ⟨h.parent_lt, h.holds_eq, h.lt_length⟩

theorem not_isChild (h : f.Held count) (hn : f.nodes[i]? = some n) : IsChild i n = false := by
  cases hparent : n.parent with
  | none => simp [IsChild, hparent]
  | some p =>
    have hlt := h.parent_lt i n p hn hparent
    have hne : p ≠ i := Nat.ne_of_lt hlt
    simp [IsChild, hparent, hne]

theorem isOpen_of_count (h : f.Held count) (hi : 0 < count i) : f.isOpen i := by
  have hn := List.getElem?_eq_getElem (h.lt_length i hi)
  rw [isOpen_of_getElem? hn, decide_eq_true_eq, h.holds_eq i _ hn]
  omega

/-- A span is held once less. If that was the last hold, its parent is held by one child less. -/
theorem lessen (h : f.Held count) (hn : f.nodes[i]? = some n) (hi : 0 < count i) :
    (f.lessened i n).Held fun j =>
      if j = i then count i - 1
      else if n.holds = 1 ∧ n.parent = some j then count j + 1 else count j := by
  have hnode (j : Nat) (m : SpanNode) (hm : (f.lessened i n).nodes[j]? = some m) :
      i = j ∧ m = { n with holds := n.holds - 1 } ∨ i ≠ j ∧ f.nodes[j]? = some m := by
    rw [lessened, getElem?_withNode hn] at hm
    split at hm
    · next hij => exact .inl ⟨hij, (Option.some.inj hm).symm⟩
    · next hij => exact .inr ⟨hij, hm⟩
  have hholds := h.holds_eq i n hn
  refine ⟨fun j m p hm hparent => ?_, fun j m hm => ?_, fun j hj => ?_⟩
  · obtain ⟨rfl, rfl⟩ | ⟨-, hm⟩ := hnode j m hm
    · exact h.parent_lt i n p hn hparent
    · exact h.parent_lt j m p hm hparent
  · have hchildren : (f.lessened i n).openChildren j + (if IsChild j n then 1 else 0) = _ :=
      openChildren_withNode (j := j) hn
    obtain ⟨rfl, rfl⟩ | ⟨hij, hm⟩ := hnode j m hm
    · have hold := h.not_isChild hn
      have hnew : IsChild i { n with holds := n.holds - 1 } = false := by
        simp only [IsChild, Bool.and_eq_false_iff] at hold ⊢
        exact hold.imp_right fun hzero => by simp at hzero ⊢; omega
      rw [hold, hnew] at hchildren
      simp only [if_pos]
      omega
    · have hother := h.holds_eq j m hm
      rw [if_neg fun heq => hij heq.symm]
      by_cases hparent : n.parent = some j
      · by_cases hlast : n.holds = 1
        · simp [IsChild, hparent, hlast] at hchildren ⊢
          omega
        · have hmore : 0 < n.holds - 1 := by omega
          have hsome : 0 < n.holds := by omega
          simp [IsChild, hparent, hlast, hmore, hsome] at hchildren ⊢
          omega
      · simp [IsChild, hparent] at hchildren ⊢
        omega
  · have hlt := (List.getElem?_eq_some_iff.mp hn).1
    simp only [lessened, withNode, List.length_set]
    split at hj
    · next hji => exact hji ▸ hlt
    · split at hj
      · next hparent => exact Nat.lt_trans (h.parent_lt i n j hn hparent.2) hlt
      · exact h.lt_length j hj

end Held

theorem attributes_withNode (h : f.nodes[i]? = some n) (hm : m.attributes = n.attributes) :
    (f.withNode i m).nodes.map (·.attributes) = f.nodes.map (·.attributes) := by
  apply List.ext_getElem?
  intro j
  rw [List.getElem?_map, List.getElem?_map, getElem?_withNode h]
  split
  · next hij =>
    subst hij
    rw [h, Option.map_some, Option.map_some, hm]
  · rfl

theorem outline_lessened (h : f.nodes[i]? = some n) : (f.lessened i n).outline = f.outline := by
  have hm : (f.nodes.set i { n with holds := n.holds - 1 }).map SpanNode.outline =
      f.nodes.map SpanNode.outline := map_outline_set h rfl
  simp only [lessened, withNode, outline, hm]

/-- Spans end, the one made last before the others, and leave their records. Nothing else changes but what
holds the spans. -/
structure Ends (f : SpanForest) (now : Nat) (out : List SpanRecord × SpanForest) (ended : List Nat) :
    Prop where
  descending : ended.Pairwise (· > ·)
  mem_iff : ∀ j, j ∈ ended ↔ f.isOpen j ∧ ¬ out.2.isOpen j
  open_before : ∀ j, out.2.isOpen j → f.isOpen j
  records_eq : out.1 = ended.filterMap fun j => f.nodes[j]?.bind (·.record? now)
  outline_eq : out.2.outline = f.outline
  attributes_eq : out.2.nodes.map (·.attributes) = f.nodes.map (·.attributes)
  entered_eq : out.2.entered = f.entered

namespace Ends

variable {out : List SpanRecord × SpanForest} {ended : List Nat}

theorem refl : f.Ends now ([], f) [] := ⟨.nil, by simp, fun _ => id, rfl, rfl, rfl, rfl⟩

theorem less (hn : f.nodes[i]? = some n) (hmore : 1 < n.holds) :
    f.Ends now ([], f.lessened i n) [] := by
  have hopen (j : Nat) : (f.lessened i n).isOpen j = f.isOpen j := by
    rw [lessened, isOpen_withNode hn]
    split
    · next hij =>
      subst hij
      have hpos : 0 < n.holds - 1 := by omega
      have hpos' : 0 < n.holds := by omega
      simp only [isOpen_of_getElem? hn, hpos, hpos']
    · rfl
  exact ⟨.nil, fun j => by simp [hopen], fun j => by simp [hopen], rfl, outline_lessened hn,
    attributes_withNode hn rfl, rfl⟩

/-- The last hold ends the span, and what ends after it is older. -/
theorem cons (hn : f.nodes[i]? = some n) (hlast : n.holds = 1)
    (h : (f.lessened i n).Ends now out ended) (hlt : ∀ j ∈ ended, j < i) :
    f.Ends now ((n.record? now).toList ++ out.1, out.2) (i :: ended) := by
  have hopen (j : Nat) : (f.lessened i n).isOpen j =
      if i = j then false else f.isOpen j := by
    rw [lessened, isOpen_withNode hn, hlast]
    rfl
  have hi : f.isOpen i := by
    rw [isOpen_of_getElem? hn, hlast]
    rfl
  refine ⟨List.pairwise_cons.mpr ⟨hlt, h.descending⟩, fun j => ?_, fun j hj => ?_, ?_,
    h.outline_eq.trans (outline_lessened hn), h.attributes_eq.trans (attributes_withNode hn rfl),
    h.entered_eq⟩
  · rw [List.mem_cons, h.mem_iff, hopen]
    by_cases hij : i = j
    · subst hij
      have hclosed : ¬ out.2.isOpen i := fun hj => by simpa [hopen] using h.open_before i hj
      simp [hi, hclosed]
    · simp [hij, Ne.symm hij]
  · have hbefore := h.open_before j hj
    rw [hopen] at hbefore
    split at hbefore
    · cases hbefore
    · exact hbefore
  · have hown : (i :: ended).filterMap (fun j => f.nodes[j]?.bind (·.record? now)) =
        (n.record? now).toList ++ ended.filterMap fun j => f.nodes[j]?.bind (·.record? now) := by
      rw [List.filterMap_cons, hn, Option.bind_some]
      cases n.record? now <;> rfl
    refine Eq.trans (congrArg ((n.record? now).toList ++ ·) (h.records_eq.trans ?_)) hown.symm
    refine List.filterMap_congr fun j hj => ?_
    rw [lessened, getElem?_withNode hn, if_neg (Nat.ne_of_gt (hlt j hj))]

/-- What ends is what was open before and is not open after. -/
theorem endedIn_eq (h : f.Ends now out ended) : f.endedIn out.2 = ended := by
  have hdescending : (f.endedIn out.2).Pairwise (· > ·) :=
    (List.pairwise_reverse.mpr List.pairwise_lt_range).filter _
  have hmem (j : Nat) : j ∈ f.endedIn out.2 ↔ j ∈ ended := by
    rw [h.mem_iff, endedIn, List.mem_filter, List.mem_reverse, List.mem_range, Bool.and_eq_true,
      Bool.not_eq_true', Bool.not_eq_true]
    exact ⟨And.right, fun hj => ⟨lt_of_isOpen hj.1, hj⟩⟩
  have hnodup {l : List Nat} (hl : l.Pairwise (· > ·)) : l.Nodup := hl.imp Nat.ne_of_gt
  refine List.Perm.eq_of_pairwise (fun a b _ _ hab hba => ?_) hdescending h.descending
    ((List.perm_ext_iff_of_nodup (hnodup hdescending) (hnodup h.descending)).mpr hmem)
  exact absurd hab (Nat.lt_asymm hba)

end Ends

theorem release_more (hn : f.nodes[i]? = some n) (hmore : 1 < n.holds) :
    f.release i now = ([], f.lessened i n) := by
  have hpos : n.holds ≠ 0 := by omega
  have hne : n.holds ≠ 1 := by omega
  rw [release, hn]
  simp only [hpos, hne, if_false]
  rfl

theorem release_root (hn : f.nodes[i]? = some n) (hlast : n.holds = 1) (hparent : n.parent = none) :
    f.release i now = ((n.record? now).toList, f.lessened i n) := by
  rw [release, hn]
  simp only [hlast, hparent, if_true, if_false, Nat.one_ne_zero, lessened, withNode]

theorem release_child (hn : f.nodes[i]? = some n) (hlast : n.holds = 1) (hparent : n.parent = some p)
    (hlt : p < i) : f.release i now =
      ((n.record? now).toList ++ ((f.lessened i n).release p now).1, ((f.lessened i n).release p now).2) := by
  rw [release, hn]
  simp only [hlast, hparent, hlt, if_true, if_false, dite_true, Nat.one_ne_zero, lessened, withNode]

/-- Letting go of a span that is counted ends spans from it upwards, and it is counted once less. -/
theorem exists_ends (h : f.Held count) (hi : 0 < count i) (now : Nat) :
    ∃ ended, f.Ends now (f.release i now) ended ∧ (∀ j ∈ ended, j ≤ i) ∧
      (f.release i now).2.Held fun j => if j = i then count i - 1 else count j := by
  induction i using Nat.strongRecOn generalizing f count with
  | _ i ih =>
    obtain ⟨n, hn⟩ : ∃ n, f.nodes[i]? = some n := ⟨_, List.getElem?_eq_getElem (h.lt_length i hi)⟩
    have hholds := h.holds_eq i n hn
    have hless := h.lessen hn hi
    by_cases hlast : n.holds = 1
    · cases hparent : n.parent with
      | none =>
        rw [release_root hn hlast hparent]
        have hends : f.Ends now ((n.record? now).toList ++ [], f.lessened i n) [i] :=
          .cons hn hlast .refl nofun
        refine ⟨[i], by simpa using hends, by simp, ?_⟩
        simpa [hparent] using hless
      | some p =>
        have hlt := h.parent_lt i n p hn hparent
        -- the parent keeps the hold of its ended child until it is let go of itself
        obtain ⟨ended, hends, hle, hheld⟩ := ih p hlt hless (by simp [Nat.ne_of_lt hlt, hlast, hparent])
        rw [release_child hn hlast hparent hlt]
        refine ⟨i :: ended, .cons hn hlast hends fun j hj => Nat.lt_of_le_of_lt (hle j hj) hlt, ?_, ?_⟩
        · intro j hj
          obtain rfl | hj := List.mem_cons.mp hj
          · exact Nat.le_refl _
          · exact Nat.le_of_lt (Nat.lt_of_le_of_lt (hle j hj) hlt)
        · refine hheld.congr fun j => ?_
          by_cases hjp : j = p
          · simp [hjp, hlast, hparent, Nat.ne_of_lt hlt]
          · simp [hjp, hparent, Ne.symm hjp]
    · rw [release_more hn (by omega)]
      refine ⟨[], .less hn (by omega), nofun, ?_⟩
      simpa [hlast] using hless

/-! ## What does not let go -/

theorem hold_eq (h : f.nodes[i]? = some n) : f.hold i = f.withNode i { n with holds := n.holds + 1 } := by
  obtain ⟨hi, rfl⟩ := List.getElem?_eq_some_iff.mp h
  rw [hold, withNode, List.modify_eq_set_get _ hi]
  rfl

theorem setFields_eq {fields : Fields} (h : f.nodes[i]? = some n) :
    f.setFields i fields = f.withNode i (n.withFields fields) := by
  obtain ⟨hi, rfl⟩ := List.getElem?_eq_some_iff.mp h
  rw [setFields, withNode, List.modify_eq_set_get _ hi]
  rfl

/-- Another span at a place, open if the one before was. -/
theorem Held.withNode {count' : Nat → Nat} (h : f.Held count) (hn : f.nodes[i]? = some n)
    (hparent : m.parent = n.parent) (hopen : 0 < m.holds ↔ 0 < n.holds)
    (hholds : m.holds + count i = n.holds + count' i) (hother : ∀ j, j ≠ i → count' j = count j) :
    (f.withNode i m).Held count' := by
  have hchildren (j : Nat) : (f.withNode i m).openChildren j = f.openChildren j := by
    have hsame : IsChild j m = IsChild j n := by simp only [IsChild, hparent, hopen]
    have hsum := openChildren_withNode (j := j) (m := m) hn
    rw [hsame] at hsum
    exact Nat.add_right_cancel hsum
  refine ⟨fun j k p hk hp => ?_, fun j k hk => ?_, fun j hj => ?_⟩
  · rw [getElem?_withNode hn] at hk
    split at hk
    · next hij =>
      obtain rfl := Option.some.inj hk
      exact hij ▸ h.parent_lt i n p hn (hparent ▸ hp)
    · exact h.parent_lt j k p hk hp
  · rw [getElem?_withNode hn] at hk
    rw [hchildren]
    split at hk
    · next hij =>
      subst hij
      obtain rfl := Option.some.inj hk
      have hbefore := h.holds_eq i n hn
      omega
    · next hij => rw [hother j (Ne.symm hij), h.holds_eq j k hk]
  · rw [SpanForest.withNode, List.length_set]
    by_cases hji : j = i
    · exact hji ▸ (List.getElem?_eq_some_iff.mp hn).1
    · exact h.lt_length j (hother j hji ▸ hj)

variable {fields : Fields} {kind : SpanKind} {parent : Option Nat} {draw : SpanDraw}

theorem Held.hold (h : f.Held count) (hopen : f.isOpen i) :
    (f.hold i).Held fun j => if j = i then count j + 1 else count j := by
  obtain ⟨n, hn, hpos⟩ := isOpen_iff.mp hopen
  rw [hold_eq hn]
  refine h.withNode hn rfl ⟨fun _ => hpos, fun _ => Nat.succ_pos _⟩ ?_ fun j hj => if_neg hj
  simp only [if_true]
  omega

theorem isOpen_hold (hopen : f.isOpen i) : (f.hold i).isOpen j = f.isOpen j := by
  obtain ⟨n, hn, hpos⟩ := isOpen_iff.mp hopen
  rw [hold_eq hn, isOpen_withNode hn]
  split
  · next hij => simp [← hij, hopen]
  · rfl

theorem Held.setFields (h : f.Held count) (hopen : f.isOpen i) : (f.setFields i fields).Held count := by
  obtain ⟨n, hn, -⟩ := isOpen_iff.mp hopen
  rw [setFields_eq hn]
  exact h.withNode hn rfl Iff.rfl rfl fun _ _ => rfl

theorem isOpen_setFields (hopen : f.isOpen i) : (f.setFields i fields).isOpen j = f.isOpen j := by
  obtain ⟨n, hn, hpos⟩ := isOpen_iff.mp hopen
  rw [setFields_eq hn, isOpen_withNode hn]
  split
  · next hij =>
    rw [← hij, hopen]
    exact decide_eq_true hpos
  · rfl

theorem isOpen_append : ({ f with nodes := f.nodes ++ [n] } : SpanForest).isOpen j =
    if j = f.nodes.length then decide (0 < n.holds) else f.isOpen j := by
  rw [isOpen, isOpen]
  split
  · next hj =>
    subst hj
    rw [List.getElem?_concat_length]
    rfl
  · next hj =>
    by_cases hlt : j < f.nodes.length
    · rw [List.getElem?_append_left hlt]
    · rw [List.getElem?_eq_none (by simp; omega), List.getElem?_eq_none (by omega)]

/-- A span that is not made yet has no children. -/
theorem Held.openChildren_eq_zero (h : f.Held count) : f.openChildren f.nodes.length = 0 := by
  rw [openChildren, List.countP_eq_zero]
  intro k hk hchild
  obtain ⟨i, hi⟩ := List.getElem?_of_mem hk
  have hlt := (List.getElem?_eq_some_iff.mp hi).1
  simp only [IsChild, Bool.and_eq_true, decide_eq_true_eq] at hchild
  exact Nat.lt_asymm hlt (h.parent_lt i k f.nodes.length hi hchild.1)

/-- A new span holds its parent, which was counted once more before. -/
theorem Held.append (h : f.Held count) (hholds : n.holds = 1)
    (hparent : ∀ p, n.parent = some p → 0 < count p) :
    ({ f with nodes := f.nodes ++ [n] } : SpanForest).Held fun j =>
      if j = f.nodes.length then 1 else if n.parent = some j then count j - 1 else count j := by
  have hlt (p : Nat) (hp : n.parent = some p) : p < f.nodes.length := h.lt_length p (hparent p hp)
  have hchildren (j : Nat) : ({ f with nodes := f.nodes ++ [n] } : SpanForest).openChildren j =
      f.openChildren j + if n.parent = some j then 1 else 0 := by
    simp [openChildren, List.countP_append, IsChild, hholds]
  refine ⟨fun j m p hm hp => ?_, fun j m hm => ?_, fun j hj => ?_⟩
  · obtain ⟨rfl, rfl⟩ | ⟨-, hm⟩ := getElem?_concat_eq_some_iff.mp hm
    · exact hlt p hp
    · exact h.parent_lt j m p hm hp
  · rw [hchildren]
    obtain ⟨rfl, rfl⟩ | ⟨hj, hm⟩ := getElem?_concat_eq_some_iff.mp hm
    · have hself : m.parent ≠ some f.nodes.length := fun hp => Nat.lt_irrefl _ (hlt _ hp)
      rw [if_pos rfl, if_neg hself, h.openChildren_eq_zero, hholds]
    · rw [if_neg (Nat.ne_of_lt hj), h.holds_eq j m hm]
      split
      · next hp =>
        have hpos := hparent j hp
        omega
      · rfl
  · simp only [List.length_append, List.length_singleton]
    split at hj
    · omega
    · split at hj
      · next hp => exact Nat.lt_succ_of_lt (hlt j hp)
      · exact Nat.lt_succ_of_lt (h.lt_length j hj)

/-- A span that starts, held by its handle. -/
def started (f : SpanForest) (kind : SpanKind) (parent : Option Nat) (fields : Fields) (draw : SpanDraw)
    (now : Nat) : SpanNode :=
  ({ f.starting kind parent draw now with holds := 1 }).withFields fields

/-- The parent of a new span is held for it. -/
def holding (f : SpanForest) : Option Nat → SpanForest
  | none => f
  | some p => f.hold p

@[simp] theorem length_holding : (f.holding parent).nodes.length = f.nodes.length := by
  cases parent with
  | none => rfl
  | some p => exact List.length_modify ..

theorem attributes_hold : (f.hold i).nodes.map (·.attributes) = f.nodes.map (·.attributes) := by
  apply List.ext_getElem?
  intro j
  rw [List.getElem?_map, List.getElem?_map, hold, List.getElem?_modify]
  cases f.nodes[j]? with
  | none => rfl
  | some n => by_cases hij : i = j <;> simp [hij]

theorem attributes_holding :
    (f.holding parent).nodes.map (·.attributes) = f.nodes.map (·.attributes) := by
  cases parent with
  | none => rfl
  | some p => exact attributes_hold

theorem outline_holding : (f.holding parent).outline = f.outline := by
  cases parent with
  | none => rfl
  | some p => exact outline_hold

theorem start_eq (hw : f.wants kind.level = true) : f.start kind parent fields draw now =
    (some f.nodes.length, { f.holding parent with
      nodes := (f.holding parent).nodes ++ [f.started kind parent fields draw now] }) := by
  have hwanted : ¬(!f.exportLimit.admits kind.level && !f.logLimit.admits kind.level) = true := by
    rw [← Bool.not_or, ← wants, hw]
    decide
  have hlength : (f.holding parent).nodes.length = f.nodes.length := length_holding
  cases parent with
  | none =>
    unfold start
    simp only [if_neg hwanted]
    rfl
  | some p =>
    rw [holding] at hlength
    unfold start
    simp only [if_neg hwanted, hlength]
    rfl

theorem Held.holding (h : f.Held count) (hparent : ∀ p, parent = some p → f.isOpen p) :
    (f.holding parent).Held fun j => if parent = some j then count j + 1 else count j := by
  cases parent with
  | none => simpa [SpanForest.holding] using h
  | some p => simpa [SpanForest.holding, eq_comm] using h.hold (hparent p rfl)

theorem isOpen_holding (hparent : ∀ p, parent = some p → f.isOpen p) :
    (f.holding parent).isOpen j = f.isOpen j := by
  cases parent with
  | none => rfl
  | some p => exact isOpen_hold (hparent p rfl)

theorem Held.start (h : f.Held count) (hw : f.wants kind.level = true)
    (hparent : ∀ p, parent = some p → f.isOpen p) :
    (f.start kind parent fields draw now).2.Held fun j => if j = f.nodes.length then 1 else count j := by
  have hstarted : (f.started kind parent fields draw now).parent = parent := rfl
  have happend := (h.holding hparent).append (n := f.started kind parent fields draw now) rfl
    fun p hp => by simp [hstarted ▸ hp]
  rw [start_eq hw]
  refine happend.congr fun j => ?_
  rw [length_holding, hstarted]
  by_cases hp : parent = some j
  · simp [hp]
  · simp [hp]

theorem isOpen_start (hw : f.wants kind.level = true) (hparent : ∀ p, parent = some p → f.isOpen p) :
    (f.start kind parent fields draw now).2.isOpen j = (decide (j = f.nodes.length) || f.isOpen j) := by
  have hopen := isOpen_append (f := f.holding parent) (j := j) (n := f.started kind parent fields draw now)
  rw [length_holding, isOpen_holding hparent] at hopen
  rw [start_eq hw]
  refine hopen.trans ?_
  by_cases hj : j = f.nodes.length
  · simp [hj, started, SpanNode.withFields]
  · simp [hj]

theorem entered_start (hw : f.wants kind.level = true) :
    (f.start kind parent fields draw now).2.entered = f.entered := by
  rw [start_eq hw]
  cases parent <;> rfl

/-- A span that is open and counted by nobody has an open child, which is younger. -/
theorem Held.exists_child {count : Nat → Nat} (h : f.Held count) (hopen : f.isOpen i) (hi : count i = 0) :
    ∃ j, i < j ∧ f.isOpen j := by
  obtain ⟨n, hn, hpos⟩ := isOpen_iff.mp hopen
  rw [h.holds_eq i n hn, hi, Nat.zero_add, openChildren, List.countP_pos_iff] at hpos
  obtain ⟨m, hm, hchild⟩ := hpos
  obtain ⟨j, hj⟩ := List.getElem?_of_mem hm
  simp only [IsChild, Bool.and_eq_true, decide_eq_true_eq] at hchild
  exact ⟨j, h.parent_lt j m i hj hchild.1, isOpen_iff.mpr ⟨m, hj, hchild.2⟩⟩

/-- No span is open that nobody counts for. -/
theorem Held.not_isOpen {count : Nat → Nat} (h : f.Held count) (hcount : ∀ j, count j = 0) :
    ¬ f.isOpen i := by
  -- the open spans from `i` on become fewer from child to child
  induction hk : f.nodes.length - i using Nat.strongRecOn generalizing i with
  | _ k ih =>
    intro hopen
    obtain ⟨j, hij, hj⟩ := h.exists_child hopen (hcount i)
    have hlt := lt_of_isOpen hj
    exact ih (f.nodes.length - j) (by omega) rfl hj

end SpanForest

end MetricsGateway
