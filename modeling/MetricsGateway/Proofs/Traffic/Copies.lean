import MetricsGateway.Traffic.Proxy

/-!
Bodies passed on in pieces. Main statement: the client gets the bytes that the upstream sent, each fault
where it came, in pieces that fit a buffer and of which no more are made than needed.
-/

namespace MetricsGateway

section Pieces

variable {α : Type} {size : Nat} {data part : List α}

theorem pieces_ne_nil : pieces size data ≠ [] := by
  fun_cases pieces size data with
  | case1 => exact List.cons_ne_nil _ _
  | case2 => exact List.cons_ne_nil _ _

/-- As many pieces as it takes, and one for no data. -/
theorem length_pieces : (pieces size data).length =
    max 1 ((data.length + max 1 size - 1) / max 1 size) := by
  have hpos : 0 < max 1 size := by omega
  fun_induction pieces size data with
  | case1 data hdrop =>
    have hle : data.length ≤ max 1 size := List.drop_eq_nil_iff.mp hdrop
    have hone : (data.length + max 1 size - 1) / max 1 size < 2 :=
      Nat.div_lt_of_lt_mul (by omega)
    rw [List.length_singleton]
    omega
  | case2 data hdrop ih =>
    have hlt : max 1 size < data.length := by
      rw [List.drop_eq_nil_iff] at hdrop
      omega
    have hrest : (data.length - max 1 size + max 1 size - 1) / max 1 size =
        (data.length - 1) / max 1 size := by
      congr 1
      omega
    have hmore : 0 < (data.length - 1) / max 1 size := Nat.div_pos (by omega) hpos
    have hall : (data.length + max 1 size - 1) / max 1 size = (data.length - 1) / max 1 size + 1 := by
      rw [← Nat.add_div_right _ hpos]
      congr 1
      omega
    rw [List.length_cons, ih, List.length_drop, hrest, hall]
    omega

/-- All pieces but the last are as large as they may be. -/
theorem length_of_mem_dropLast_pieces (h : part ∈ (pieces size data).dropLast) :
    part.length = max 1 size := by
  fun_induction pieces size data with
  | case1 => cases h
  | case2 data hdrop ih =>
    rw [List.dropLast_cons_of_ne_nil pieces_ne_nil] at h
    obtain rfl | h := List.mem_cons.mp h
    · rw [List.drop_eq_nil_iff] at hdrop
      rw [List.length_take]
      omega
    · exact ih h

theorem length_le_of_mem_pieces (h : part ∈ pieces size data) : part.length ≤ max 1 size := by
  fun_induction pieces size data with
  | case1 data hdrop =>
    obtain rfl := List.mem_singleton.mp h
    exact List.drop_eq_nil_iff.mp hdrop
  | case2 data hdrop ih =>
    obtain rfl | h := List.mem_cons.mp h
    · exact List.length_take_le _ _
    · exact ih h

theorem ne_nil_of_mem_pieces (hdata : data ≠ []) (h : part ∈ pieces size data) : part ≠ [] := by
  fun_induction pieces size data with
  | case1 =>
    obtain rfl := List.mem_singleton.mp h
    exact hdata
  | case2 data hdrop ih =>
    obtain rfl | h := List.mem_cons.mp h
    · rw [ne_eq, List.take_eq_nil_iff]
      rintro (hzero | hnil)
      · omega
      · exact hdata hnil
    · exact ih hdrop h

end Pieces

namespace Frame

variable {size : Nat} {bs : Bytes} {frames rest : List Frame}

/-- The data up to the first fault, between the faults and after the last one. -/
def stretches : List Frame → List Bytes
  | [] => [[]]
  | .fault :: rest => [] :: stretches rest
  | .data bs :: rest => (stretches rest).modifyHead (bs ++ ·)

theorem stretches_data_append (parts : List Bytes) :
    stretches (parts.map .data ++ rest) = (stretches rest).modifyHead (parts.flatten ++ ·) := by
  induction parts with
  | nil =>
    rw [List.map_nil, List.nil_append]
    cases stretches rest <;> rfl
  | cons part parts ih =>
    rw [List.map_cons, List.cons_append, stretches, ih, List.modifyHead_modifyHead]
    simp [Function.comp_def]

/-- Cutting the data moves no byte past a fault and loses no fault. -/
theorem stretches_passedOn : stretches (passedOn size frames) = stretches frames := by
  induction frames with
  | nil => rfl
  | cons frame frames ih =>
    cases frame with
    | data bs =>
      have hcut : passedOn size (.data bs :: frames) =
          (pieces size bs).map .data ++ passedOn size frames := rfl
      rw [hcut, stretches_data_append, ih, pieces_flatten, stretches]
    | fault =>
      have hkept : passedOn size (.fault :: frames) = .fault :: passedOn size frames := rfl
      rw [hkept, stretches, ih, stretches]

theorem length_le_of_mem_passedOn (h : .data bs ∈ passedOn size frames) :
    bs.length ≤ max 1 size := by
  obtain ⟨frame, -, hframe⟩ := List.mem_flatMap.mp h
  cases frame with
  | data whole =>
    obtain ⟨part, hpart, heq⟩ := List.mem_map.mp hframe
    obtain rfl := Frame.data.inj heq
    exact length_le_of_mem_pieces hpart
  | fault => cases List.mem_singleton.mp hframe

end Frame

/-- A body is copied frame by frame, whatever the buffers that are left meanwhile. -/
theorem Proxy.copy_eq_flatMap (p : Proxy) (frames : List Frame) :
    (p.copy frames).1.frames = frames.flatMap fun frame => (p.copy [frame]).1.frames := by
  simp only [Proxy.copy, Frame.passedOn, List.flatMap_singleton]

/-- Whether or not a buffer is free, the copy of a body has the bytes of the body, in order, and each of
its faults after the bytes that came before it, in pieces that fit a buffer. It is the copies of its
frames, one after the other. The data of a frame is cut into as few pieces as possible: all but the last
fill the buffer, and none is empty unless all the data is. -/
theorem Proxy.copy_passes_on (p : Proxy) (frames : List Frame) :
    Frame.bytes (p.copy frames).1.frames = Frame.bytes frames ∧
    Frame.stretches (p.copy frames).1.frames = Frame.stretches frames ∧
    (∀ bs, .data bs ∈ (p.copy frames).1.frames → bs.length ≤ max 1 p.bufferSize) ∧
    (p.copy frames).1.frames = (frames.flatMap fun frame => (p.copy [frame]).1.frames) ∧
    (p.copy [.fault]).1.frames = [.fault] ∧
    ∀ data : Bytes,
      (p.copy [.data data]).1.frames = (pieces p.bufferSize data).map .data ∧
      (pieces p.bufferSize data).flatten = data ∧
      (pieces p.bufferSize data).length =
        max 1 ((data.length + max 1 p.bufferSize - 1) / max 1 p.bufferSize) ∧
      (∀ part ∈ (pieces p.bufferSize data).dropLast, part.length = max 1 p.bufferSize) ∧
      (data ≠ [] → ∀ part ∈ pieces p.bufferSize data, part ≠ []) := by
  refine ⟨Frame.bytes_passedOn _ frames, Frame.stretches_passedOn,
    fun bs h => Frame.length_le_of_mem_passedOn h, p.copy_eq_flatMap frames, rfl, fun data => ?_⟩
  exact ⟨List.append_nil _, pieces_flatten _ data, length_pieces, fun _ h => length_of_mem_dropLast_pieces h,
    fun hdata _ h => ne_nil_of_mem_pieces hdata h⟩

end MetricsGateway
