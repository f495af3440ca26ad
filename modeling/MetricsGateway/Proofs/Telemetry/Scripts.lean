import MetricsGateway.Proofs.Telemetry.Traces
import MetricsGateway.Telemetry.SpanScript

/-!
Histories of spans that are named by texts as moves of a program. Main statement: each of them is a run that
lets go of all its spans, with the same records.
-/

namespace MetricsGateway

/-! ## Named handles -/

section Keys

variable {key : String} {made : Option Nat} {members : List (String × Option Nat)}

theorem lookup_eq_none_of_forall (h : ∀ member ∈ members, key < member.1) : members.lookup key = none :=
  List.lookup_eq_none_iff.mpr fun member hm => bne_iff_ne.mpr (ne_of_lt (h member hm))

theorem filter_ne_of_forall (h : ∀ member ∈ members, key < member.1) :
    members.filter (·.1 != key) = members :=
  List.filter_eq_self.mpr fun member hm => bne_iff_ne.mpr (ne_of_gt (h member hm))

/-- A name that is given away hands back what it stood for. -/
theorem count_insertByKey (h : members.Pairwise fun a b => a.1 < b.1) (i : Nat) :
    ((members.lookup key).join :: (insertByKey key made members).map (·.2)).count (some i) =
      (made :: members.map (·.2)).count (some i) := by
  induction members with
  | nil => simp [insertByKey]
  | cons member rest ih =>
    obtain ⟨k, v⟩ := member
    obtain ⟨hfirst, hrest⟩ := List.pairwise_cons.mp h
    have hmore := ih hrest
    rw [insertByKey, lookup_cons_eq]
    by_cases hk : key = k
    · rw [if_pos hk, if_pos hk]
      exact (List.Perm.swap made v _).count_eq (some i)
    · rw [if_neg hk, if_neg hk]
      by_cases hlt : key < k
      · rw [if_pos hlt, lookup_eq_none_of_forall fun member hm => lt_trans hlt (hfirst member hm)]
        simp
      · rw [if_neg hlt]
        simp only [List.map_cons, List.count_cons] at hmore ⊢
        omega

theorem count_filter_ne (h : members.Pairwise fun a b => a.1 < b.1) (i : Nat) :
    ((members.lookup key).join :: (members.filter (·.1 != key)).map (·.2)).count (some i) =
      (members.map (·.2)).count (some i) := by
  induction members with
  | nil => simp
  | cons member rest ih =>
    obtain ⟨k, v⟩ := member
    obtain ⟨hfirst, hrest⟩ := List.pairwise_cons.mp h
    have hmore := ih hrest
    rw [lookup_cons_eq]
    by_cases hk : key = k
    · subst hk
      rw [if_pos rfl, List.filter_cons_of_neg (by simp), filter_ne_of_forall hfirst]
      rfl
    · rw [if_neg hk, List.filter_cons_of_pos (by simpa using Ne.symm hk)]
      simp only [List.map_cons, List.count_cons] at hmore ⊢
      omega

theorem count_eraseP (i : Nat) :
    ((members.lookup key).join :: (members.eraseP (·.1 = key)).map (·.2)).count (some i) =
      (members.map (·.2)).count (some i) := by
  induction members with
  | nil => simp
  | cons member rest ih =>
    obtain ⟨k, v⟩ := member
    rw [lookup_cons_eq]
    by_cases hk : key = k
    · rw [if_pos hk, List.eraseP_cons_of_pos (by simp [hk])]
      rfl
    · rw [if_neg hk, List.eraseP_cons_of_neg (by simpa using Ne.symm hk)]
      simp only [List.map_cons, List.count_cons] at ih ⊢
      omega

theorem mem_of_join_lookup {i : Nat} (h : (members.lookup key).join = some i) :
    0 < (members.map (·.2)).count (some i) := by
  rw [Option.join_eq_some_iff] at h
  obtain ⟨before, after, rfl, -⟩ := List.lookup_eq_some_iff.mp h
  exact List.count_pos_iff.mpr (List.mem_map.mpr ⟨(key, some i), by simp, rfl⟩)

end Keys

/-! ## Moves that leave records -/

namespace SpanHandles

open SpanForest

variable {t t' t'' : SpanHandles} {m : SpanMove} {now i : Nat} {report : SpanReport}
  {records more : List SpanRecord}

/-- Moves lead from one state to another and leave these records on the way. -/
def Leaves (t : SpanHandles) (records : List SpanRecord) (t' : SpanHandles) : Prop :=
  ∃ moves reports, t.run? moves = some (reports, t') ∧ SpanStory.Drawn moves ∧
    reports.flatMap (·.records) = records

theorem Leaves.refl : t.Leaves [] t := ⟨[], [], rfl, nofun, rfl⟩

theorem Leaves.trans (h : t.Leaves records t') (h' : t'.Leaves more t'') :
    t.Leaves (records ++ more) t'' := by
  obtain ⟨moves, reports, hrun, hdrawn, rfl⟩ := h
  obtain ⟨moves', reports', hrun', hdrawn', rfl⟩ := h'
  exact ⟨moves ++ moves', reports ++ reports', History.run?_append hrun hrun',
    hdrawn.append hdrawn', List.flatMap_append⟩

theorem leaves_of_move? (h : t.move? (now, m) = some (report, t'))
    (hdrawn : ∀ draw ∈ m.draw?, 0 < draw.traceId ∧ 0 < draw.spanId) : t.Leaves report.records t' :=
  ⟨[(now, m)], [report], History.run?_single h, List.forall_mem_singleton.mpr hdrawn,
    List.flatMap_singleton ..⟩

/-- The program has these spans in its hands and has entered these. -/
structure Has (t : SpanHandles) (f : SpanForest) (held entered : List (Option Nat)) : Prop where
  forest_eq : t.forest = f
  kept : t.Kept
  count_handles : ∀ i, t.handles.count i = held.count (some i)
  count_entered : ∀ i, t.forest.entered.countP (·.1 = i) = entered.count (some i)

namespace Has

variable {f : SpanForest} {held entered held' entered' : List (Option Nat)} {fields : Fields}
  {kind : SpanKind} {parent : Option Nat} {draw : SpanDraw}

theorem congr (h : t.Has f held entered) (hheld : ∀ i, held'.count (some i) = held.count (some i))
    (hentered : ∀ i, entered'.count (some i) = entered.count (some i)) : t.Has f held' entered' :=
  ⟨h.forest_eq, h.kept, fun i => (h.count_handles i).trans (hheld i).symm,
    fun i => (h.count_entered i).trans (hentered i).symm⟩

/-- What is held or entered is open. -/
theorem isOpen (h : t.Has f held entered) (hi : 0 < held.count (some i) + entered.count (some i)) :
    t.forest.isOpen i := by
  refine h.kept.isOpen_of_count ?_
  rw [uses, h.count_handles, h.count_entered]
  exact hi

theorem start (h : t.Has f held entered) (hparent : parent.all t.forest.isOpen)
    (hdraw : 0 < draw.traceId ∧ 0 < draw.spanId) :
    ∃ t', t.Leaves [] t' ∧ t'.Has (f.start kind parent fields draw now).2
      ((f.start kind parent fields draw now).1 :: held) entered := by
  obtain rfl := h.forest_eq
  have hmove : t.move? (now, .start kind parent fields draw) = some (t.become
      ((t.forest.start kind parent fields draw now).1.toList ++ t.handles)
      ([], (t.forest.start kind parent fields draw now).2)) := if_pos hparent
  refine ⟨_, leaves_of_move? hmove fun d hd => Option.some.inj hd ▸ hdraw, rfl,
    (moves_of_move? h.kept hmove).kept h.kept, fun i => ?_, fun i => ?_⟩
  · simp only [List.count_append, h.count_handles, List.count_cons]
    cases (t.forest.start kind parent fields draw now).1 with
    | none => simp
    | some j =>
      simp only [Option.toList_some, List.count_singleton, Option.some_beq_some, beq_iff_eq]
      omega
  · refine Eq.trans ?_ (h.count_entered i)
    cases hw : t.forest.wants kind.level with
    | false => simp only [start_of_unwanted hw]
    | true => simp only [entered_start hw]

theorem setFields (h : t.Has f held entered) (hi : 0 < held.count (some i)) (now : Nat) :
    ∃ t', t.Leaves [] t' ∧ t'.Has (f.setFields i fields) held entered := by
  have hopen := h.isOpen (Nat.add_pos_left hi _)
  obtain rfl := h.forest_eq
  have hmove : t.move? (now, .record i fields) =
      some (t.become t.handles ([], t.forest.setFields i fields)) := if_pos hopen
  exact ⟨_, leaves_of_move? hmove nofun, rfl, (moves_of_move? h.kept hmove).kept h.kept,
    h.count_handles, h.count_entered⟩

theorem enter (h : t.Has f held entered) (hi : 0 < held.count (some i)) (now : Nat) :
    ∃ t', t.Leaves [] t' ∧ t'.Has (f.enter i) held (some i :: entered) := by
  have hopen := h.isOpen (Nat.add_pos_left hi _)
  obtain rfl := h.forest_eq
  have hmove : t.move? (now, .enter i) = some (t.become t.handles ([], t.forest.enter i)) := if_pos hopen
  refine ⟨_, leaves_of_move? hmove nofun, rfl, (moves_of_move? h.kept hmove).kept h.kept,
    h.count_handles, fun j => ?_⟩
  simp only [SpanForest.enter, List.countP_cons, h.count_entered, List.count_cons, decide_eq_true_eq,
    beq_iff_eq, Option.some.injEq]

theorem release (h : t.Has f (some i :: held) entered) :
    ∃ t', t.Leaves (f.release i now).1 t' ∧ t'.Has (f.release i now).2 held entered := by
  obtain rfl := h.forest_eq
  have hmem : i ∈ t.handles := by
    rw [← List.count_pos_iff, h.count_handles, List.count_cons_self]
    exact Nat.succ_pos _
  have hmove : t.move? (now, .drop i) = some (t.become (t.handles.erase i) (t.forest.release i now)) :=
    if_pos hmem
  obtain ⟨ended, hends, hkept⟩ := exists_ends_drop h.kept hmem now
  refine ⟨_, leaves_of_move? hmove nofun, rfl, hkept, fun j => ?_, fun j => ?_⟩
  · simp only [List.count_erase, h.count_handles, List.count_cons, beq_iff_eq, Option.some.injEq]
    omega
  · simp only [hends.entered_eq, h.count_entered]

theorem leave (h : t.Has f held (some i :: entered)) :
    ∃ t', t.Leaves (f.leave i now).1 t' ∧ t'.Has (f.leave i now).2 held entered := by
  obtain rfl := h.forest_eq
  have hentered : t.forest.entered.any (·.1 = i) := by
    have hpos : 0 < t.forest.entered.countP (·.1 = i) := by
      rw [h.count_entered, List.count_cons_self]
      exact Nat.succ_pos _
    exact List.any_eq_true.mpr (List.countP_pos_iff.mp hpos)
  have hmove : t.move? (now, .leave i) = some (t.become t.handles (t.forest.leave i now)) :=
    if_pos hentered
  obtain ⟨ended, hends, hkept⟩ := exists_ends_leave h.kept hentered now
  refine ⟨_, leaves_of_move? hmove nofun, rfl, hkept, h.count_handles, fun j => ?_⟩
  have hone := countP_eraseP (j := j) hentered
  have hcount := h.count_entered j
  simp only [hends.entered_eq]
  rw [List.count_cons] at hcount
  simp only [beq_iff_eq, Option.some.injEq] at hcount
  omega

end Has

end SpanHandles

/-! ## Scripts -/

namespace SpanScript

open SpanHandles

variable {s : SpanScript} {t : SpanHandles} {i : Option Nat} {held entered : List (Option Nat)}

theorem exists_release (h : t.Has s.forest (i :: held) entered) :
    ∃ t', t.Leaves (s.release i).1 t' ∧ t'.Has (s.release i).2.forest held entered := by
  cases i with
  | none => exact ⟨t, .refl, h.congr (fun j => by simp) fun _ => rfl⟩
  | some i => exact h.release

theorem exists_leave (h : t.Has s.forest held (i :: entered)) :
    ∃ t', t.Leaves (s.leave i).1 t' ∧ t'.Has (s.leave i).2.forest held entered := by
  cases i with
  | none => exact ⟨t, .refl, h.congr (fun _ => rfl) fun j => by simp⟩
  | some i => exact h.leave

theorem exists_start {parent : Option Nat} (h : t.Has s.forest held entered)
    (hparent : parent.all t.forest.isOpen) (kind : SpanKind) (fields : Fields) :
    ∃ t', t.Leaves [] t' ∧ t'.Has (s.start kind parent fields).2.forest
      ((s.start kind parent fields).1 :: held) entered :=
  h.start hparent ⟨Nat.succ_pos _, Nat.succ_pos _⟩

theorem isOpen_current? (h : t.Has s.forest held entered) : s.forest.current?.all t.forest.isOpen := by
  rw [Option.all_eq_true]
  intro p hp
  obtain ⟨e, he, rfl⟩ := Option.map_eq_some_iff.mp hp
  have hmem := List.mem_of_find?_eq_some he
  rw [← h.forest_eq] at hmem
  refine h.isOpen (Nat.add_pos_right _ ?_)
  rw [← h.count_entered, List.countP_pos_iff]
  exact ⟨e, hmem, decide_eq_true rfl⟩

theorem exists_burst (h : t.Has s.forest held entered) (i n : Nat) :
    ∃ t', t.Leaves (s.burst i n).1 t' ∧ t'.Has (s.burst i n).2.forest held entered := by
  induction n generalizing s t i with
  | zero => exact ⟨t, .refl, h⟩
  | succ n ih =>
    obtain ⟨made, hmade, hstart⟩ :=
      exists_start h (isOpen_current? h) (kind "job" .error) [("status", .count i)]
    obtain ⟨released, hreleased, hrelease⟩ := exists_release hstart
    obtain ⟨rest, hrest, hlast⟩ := ih hrelease (i + 1)
    exact ⟨rest, hmade.trans (hreleased.trans hrest), hlast⟩

def tick (s : SpanScript) : SpanScript := { s with now := s.now + 1 }

/-- A span that was made gets a name, and the one that had the name before is let go of. -/
def install (id : String) (older : Option Nat) (made : Option Nat × SpanScript) :
    List SpanRecord × SpanScript :=
  { made.2 with handles := insertByKey id made.1 made.2.handles }.release older

theorem step_start {id : String} {kind : SpanKind} {parent : SpanParent} {fields : Fields} :
    s.step (.start id kind parent fields) = install id (s.handles.lookup id).join
      (s.tick.start kind (s.tick.parentOf parent) fields) := rfl

/-- The program has the spans of the script in its hands, and the names stand in order. -/
structure Played (s : SpanScript) (t : SpanHandles) : Prop where
  has : t.Has s.forest (s.handles.map (·.2)) (s.entries.map (·.2))
  sorted : s.handles.Pairwise fun a b => a.1 < b.1

@[simp] theorem handles_leave : (s.leave i).2.handles = s.handles := by
  cases i <;> rfl

@[simp] theorem entries_leave : (s.leave i).2.entries = s.entries := by
  cases i <;> rfl

@[simp] theorem handles_release : (s.release i).2.handles = s.handles := by
  cases i <;> rfl

@[simp] theorem entries_release : (s.release i).2.entries = s.entries := by
  cases i <;> rfl

/-- What each item keeps, with what is left of the items, is kept by all of them one after the other. -/
theorem exists_runAll {α : Type} {act : SpanScript → α → List SpanRecord × SpanScript}
    {P : List α → SpanScript → SpanHandles → Prop} (as : List α)
    (hact : ∀ a as s t, P (a :: as) s t → ∃ t', t.Leaves (act s a).1 t' ∧ P as (act s a).2 t')
    (h : P as s t) :
    ∃ t', t.Leaves (s.runAll act as).1 t' ∧ P [] (s.runAll act as).2 t' := by
  induction as generalizing s t with
  | nil => exact ⟨t, .refl, h⟩
  | cons a as ih =>
    obtain ⟨first, hfirst, hkept⟩ := hact a as s t h
    obtain ⟨rest, hrest, hlast⟩ := ih hkept
    exact ⟨rest, hfirst.trans hrest, hlast⟩

theorem handles_leave_all (entries : List (String × Option Nat)) :
    (s.runAll (fun s (_, i) => s.leave i) entries).2.handles = s.handles := by
  induction entries generalizing s with
  | nil => rfl
  | cons entry entries ih => exact (ih (s := (s.leave entry.2).2)).trans handles_leave

theorem burst_spec (i n : Nat) :
    (s.burst i n).2.handles = s.handles ∧ (s.burst i n).2.entries = s.entries := by
  induction n generalizing s i with
  | zero => exact ⟨rfl, rfl⟩
  | succ n ih =>
    obtain ⟨hhandles, hentries⟩ := ih (s := ((s.start (kind "job" .error) s.forest.current?
      [("status", .count i)]).2.release (s.start (kind "job" .error) s.forest.current?
      [("status", .count i)]).1).2) (i + 1)
    exact ⟨hhandles.trans handles_release, hentries.trans entries_release⟩

namespace Played

theorem isOpen_parentOf (h : s.Played t) (parent : SpanParent) :
    (s.parentOf parent).all t.forest.isOpen := by
  cases parent with
  | current => exact isOpen_current? h.has
  | none => rfl
  | named id =>
    rw [Option.all_eq_true]
    intro p hp
    exact h.has.isOpen (Nat.add_pos_left (mem_of_join_lookup hp) _)

/-- A step of a script is some moves, with the same records. -/
theorem step (h : s.Played t) (e : SpanStep) :
    ∃ t', t.Leaves (s.step e).1 t' ∧ (s.step e).2.Played t' := by
  cases e with
  | start id kind parent fields =>
    obtain ⟨made, hmade, hstart⟩ :=
      exists_start (s := s.tick) h.has (h.isOpen_parentOf parent) kind fields
    have hnamed : made.Has _ ((s.handles.lookup id).join :: (insertByKey id _ s.handles).map (·.2)) _ :=
      hstart.congr (count_insertByKey h.sorted) fun _ => rfl
    obtain ⟨released, hreleased, hrelease⟩ := exists_release (s := { (s.tick.start kind
      (s.tick.parentOf parent) fields).2 with handles := insertByKey id _ s.handles }) hnamed
    refine ⟨released, hmade.trans hreleased, ?_, ?_⟩
    · rw [step_start, install, handles_release, entries_release]
      exact hrelease
    · rw [step_start, install, handles_release]
      exact pairwise_insertByKey h.sorted
  | record id fields =>
    simp only [SpanScript.step]
    split
    · next i hi =>
      obtain ⟨t', hleaves, hhas⟩ := h.has.setFields (mem_of_join_lookup hi) (s.now + 1)
      exact ⟨t', hleaves, hhas, h.sorted⟩
    · exact ⟨t, .refl, h.has, h.sorted⟩
  | enter id =>
    simp only [SpanScript.step]
    split
    · exact ⟨t, .refl, h.has, h.sorted⟩
    · next i hi =>
      cases i with
      | none => exact ⟨t, .refl, h.has.congr (fun _ => rfl) fun j => by simp, h.sorted⟩
      | some i =>
        have hjoin : (s.handles.lookup id).join = some i := by rw [hi]; rfl
        obtain ⟨t', hleaves, hhas⟩ := h.has.enter (mem_of_join_lookup hjoin) (s.now + 1)
        exact ⟨t', hleaves, hhas, h.sorted⟩
  | leave id =>
    have hless : t.Has s.forest _ ((s.entries.lookup id).join ::
        (s.entries.eraseP (·.1 = id)).map (·.2)) := h.has.congr (fun _ => rfl) count_eraseP
    obtain ⟨t', hleaves, hhas⟩ :=
      exists_leave (s := { s with now := s.now + 1, entries := s.entries.eraseP (·.1 = id) }) hless
    refine ⟨t', hleaves, ?_, ?_⟩
    · rw [SpanScript.step, handles_leave, entries_leave]
      exact hhas
    · rw [SpanScript.step, handles_leave]
      exact h.sorted
  | close id =>
    have hless : t.Has s.forest ((s.handles.lookup id).join ::
        (s.handles.filter (·.1 != id)).map (·.2)) _ := h.has.congr (count_filter_ne h.sorted) fun _ => rfl
    obtain ⟨t', hleaves, hhas⟩ :=
      exists_release (s := { s with now := s.now + 1, handles := s.handles.filter (·.1 != id) }) hless
    refine ⟨t', hleaves, ?_, ?_⟩
    · rw [SpanScript.step, handles_release, entries_release]
      exact hhas
    · rw [SpanScript.step, handles_release]
      exact h.sorted.filter _
  | burst count =>
    obtain ⟨t', hleaves, hhas⟩ := exists_burst (s := s.tick) h.has 0 count
    obtain ⟨hhandles, hentries⟩ := burst_spec (s := s.tick) 0 count
    refine ⟨t', hleaves, ?_, ?_⟩
    · change t'.Has _ ((s.tick.burst 0 count).2.handles.map (·.2))
        ((s.tick.burst 0 count).2.entries.map (·.2))
      rw [hhandles, hentries]
      exact hhas
    · exact hhandles ▸ h.sorted

/-- At the end the program lets go of everything that it has. -/
theorem finish (h : s.Played t) : ∃ t', t.Leaves s.finish t' ∧ t'.handles = [] ∧ t'.forest.entered = [] := by
  have hsorted : t.Has s.forest (s.handles.map (·.2))
      ((s.entries.reverse.mergeSort fun a b => a.1 ≤ b.1).map (·.2)) :=
    h.has.congr (fun _ => rfl) fun i => List.Perm.count_eq
      (((List.mergeSort_perm _ _).trans (List.reverse_perm _)).map _) (some i)
  obtain ⟨left, hleft, hleave⟩ := exists_runAll
    (P := fun entries s t => t.Has s.forest _ (entries.map Prod.snd)) _ (fun _ _ _ _ => exists_leave) hsorted
  rw [← handles_leave_all (s := s)] at hleave
  obtain ⟨last, hlast, hrelease⟩ := exists_runAll
    (P := fun handles s t => t.Has s.forest (handles.map Prod.snd) _) _ (fun _ _ _ _ => exists_release) hleave
  refine ⟨last, hleft.trans hlast, List.eq_nil_iff_forall_not_mem.mpr fun i => ?_,
    List.eq_nil_iff_forall_not_mem.mpr fun e he => ?_⟩
  · rw [← List.count_eq_zero]
    exact hrelease.count_handles i
  · have hnone := hrelease.count_entered e.1
    exact List.countP_eq_zero.mp hnone e he (decide_eq_true rfl)

end Played

/-- Each history of named spans is a run that lets go of all spans, and leaves the same records. -/
theorem exists_run (sampler : Sampler) (exportLimit logLimit : LevelLimit) (steps : List SpanStep) :
    ∃ moves reports t, (SpanHandles.new sampler exportLimit logLimit).run? moves = some (reports, t) ∧
      SpanStory.Drawn moves ∧ t.handles = [] ∧ t.forest.entered = [] ∧
      reports.flatMap (·.records) = records (.new sampler exportLimit logLimit) steps := by
  have hnew : (new (.new sampler exportLimit logLimit)).Played (.new sampler exportLimit logLimit) :=
    ⟨⟨rfl, kept_new, fun _ => rfl, fun _ => rfl⟩, .nil⟩
  obtain ⟨t, hsteps, hplayed⟩ := exists_runAll (P := fun _ s t => s.Played t) steps
    (fun e _ _ _ hplayed => hplayed.step e) hnew
  obtain ⟨last, hfinish, hhandles, hentered⟩ := hplayed.finish
  obtain ⟨moves, reports, hrun, hdrawn, hrecords⟩ := hsteps.trans hfinish
  exact ⟨moves, reports, last, hrun, hdrawn, hhandles, hentered, hrecords⟩

end SpanScript

end MetricsGateway
