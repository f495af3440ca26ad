import MetricsGateway.Text.Utf8
import MetricsGateway.Traffic.Pieces

/-!
Bodies of messages as they arrive: data in frames, which may break off. A body is passed on in
pieces that fit a buffer.
-/

namespace MetricsGateway

/-- What a body yields next: some data, or the fault that ends it. -/
inductive Frame where
  | data (bytes : Bytes)
  | fault
  deriving DecidableEq, Repr

namespace Frame

def bytes (frames : List Frame) : Bytes :=
  frames.flatMap fun
    | .data bs => bs
    | .fault => []

def hasFault (frames : List Frame) : Bool :=
  frames.contains .fault

/-- Data cut into pieces of at most `size` bytes, zero counting as one; a fault stays in its
place. -/
def passedOn (size : Nat) (frames : List Frame) : List Frame :=
  frames.flatMap fun
    | .data bs => (pieces size bs).map .data
    | .fault => [.fault]

def fit (size : Nat) (frames : List Frame) : Bool :=
  frames.all fun
    | .data bs => bs.length ≤ size
    | .fault => true

def ofBytes (bs : Bytes) : List Frame :=
  if bs.isEmpty then [] else [.data bs]

theorem bytes_map_data (parts : List Bytes) : bytes (parts.map .data) = parts.flatten := by
  induction parts with
  | nil => rfl
  | cons part parts ih =>
    rw [List.map_cons, List.flatten_cons, ← ih]
    rfl

theorem bytes_passedOn (size : Nat) (frames : List Frame) :
    bytes (passedOn size frames) = bytes frames := by
  induction frames with
  | nil => rfl
  | cons frame frames ih =>
    have split (a b : List Frame) : bytes (a ++ b) = bytes a ++ bytes b := List.flatMap_append
    cases frame with
    | data bs =>
      have h : passedOn size (.data bs :: frames) = (pieces size bs).map .data ++ passedOn size frames :=
        rfl
      have h' : bytes (.data bs :: frames) = bs ++ bytes frames := rfl
      rw [h, split, ih, bytes_map_data, pieces_flatten, h']
    | fault =>
      have h : passedOn size (.fault :: frames) = .fault :: passedOn size frames := rfl
      have h' (fs : List Frame) : bytes (.fault :: fs) = bytes fs := rfl
      rw [h, h', h', ih]

end Frame

/-- The body of a response: what it yields, its length where that is known beforehand, and whether
it holds a buffer until it is dropped. -/
structure Body where
  frames : List Frame
  length : Option Nat
  buffered : Bool
  deriving DecidableEq, Repr

namespace Body

def empty : Body := ⟨[], some 0, false⟩

def ofBytes (bs : Bytes) : Body := ⟨Frame.ofBytes bs, some bs.length, false⟩

end Body

end MetricsGateway
