/-!
Pools of things that are lent and given back, such as buffers for bodies and permits for connections.
-/

namespace MetricsGateway

/-- How many things there are and how many of them are lent. -/
structure Pool where
  size : Nat
  held : Nat
  held_le_size : held ≤ size := by omega
  deriving DecidableEq, Repr

namespace Pool

def maxSize : Nat := (1 <<< 61) - 1

def tooLarge : String :=
  "a semaphore may not have more than MAX_PERMITS permits (" ++ toString maxSize ++ ")"

def new (size : Nat) : Pool := { size, held := 0 }

def free (p : Pool) : Nat := p.size - p.held

def take (p : Pool) : Bool × Pool :=
  if h : p.held < p.size then (true, { size := p.size, held := p.held + 1, held_le_size := h })
  else (false, p)

/-- Takes things back; no more than are lent. -/
def giveBack (p : Pool) (count : Nat) : Pool :=
  { size := p.size, held := p.held - count,
    held_le_size := Nat.le_trans (Nat.sub_le ..) p.held_le_size }

theorem fst_take (p : Pool) : p.take.1 = decide (0 < p.free) := by
  unfold take free
  split <;> simp <;> omega

@[simp] theorem size_take (p : Pool) : p.take.2.size = p.size := by
  unfold take
  split <;> rfl

theorem held_take (p : Pool) : p.take.2.held = p.held + p.take.1.toNat := by
  unfold take
  split <;> rfl

/-- Where something is free, it is lent. -/
theorem take_of_free {p : Pool} (h : p.free ≠ 0) : p.take.1 = true ∧ p.take.2.held = p.held + 1 := by
  have hlt : p.held < p.size := by
    unfold free at h
    omega
  rw [take, dif_pos hlt]
  exact ⟨rfl, rfl⟩

@[simp] theorem size_giveBack (p : Pool) (count : Nat) : (p.giveBack count).size = p.size := rfl

@[simp] theorem held_giveBack (p : Pool) (count : Nat) :
    (p.giveBack count).held = p.held - count := rfl

theorem free_add_held (p : Pool) : p.free + p.held = p.size :=
  Nat.sub_add_cancel p.held_le_size

end Pool

end MetricsGateway
