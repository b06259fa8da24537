import Kesharon.Ipc.Stream
import Kesharon.Protocol.Frame

namespace Kesharon.Ipc

open Protocol

/-- One direction of a connection, as its reader finds it: the frames its writer has begun to
write, how many of their bytes have arrived and been consumed, and after how many bytes the writer
closed it, if it did. -/
structure Wire where
  frames : List (List UInt8)
  arrived : Nat
  position : Nat
  closed : Option Nat
  deriving DecidableEq, Repr

/-- What a read of a wire may meet. -/
inductive WireRead where
  | bytes (count : Nat)
  | zero
  | interrupted
  | wouldBlock
  | failed (error : IoError)
  deriving DecidableEq, Repr

namespace Wire

def new : Wire := ⟨[],0,0,none⟩

/-- The bytes of frames in a row. -/
def bytesOf (frames : List (List UInt8)) : List UInt8 := (frames.map frameOf).flatten

/-- How many bytes the writer writes. -/
def written (w : Wire) : Nat := w.closed.getD (bytesOf w.frames).length

/-- The arrived bytes that are not consumed. -/
def available (w : Wire) : List UInt8 := ((bytesOf w.frames).take w.arrived).drop w.position

/-- The writer has closed, and all its bytes are consumed. -/
def Drained (w : Wire) : Prop := w.closed = some w.position

instance (w : Wire) : Decidable w.Drained := inferInstanceAs (Decidable (w.closed = _))

def write (w : Wire) (payload : List UInt8) : Wire := { w with frames := w.frames ++ [payload] }

def arrive (w : Wire) (count : Nat) : Wire :=
  { w with arrived := min (w.arrived + count) w.written }

/-- The writer stops after some bytes, not before those that have arrived. -/
def close (w : Wire) (count : Nat) : Wire :=
  { w with closed := some (max w.arrived (min count (bytesOf w.frames).length)) }

/-- A read into a buffer with room for `need` bytes. Behind the last byte of a closed wire it
returns `Ok(0)`. -/
def read (w : Wire) (need : Nat) : WireRead → Option (ReadResult × Wire)
  | .bytes count =>
    let chunk := (w.available.take need).take count
    if chunk = [] then none
    else some (.ok chunk, { w with position := w.position + chunk.length })
  | .zero => if w.Drained then some (.ok [], w) else none
  | .interrupted => some (.interrupted, w)
  | .wouldBlock => if w.Drained then none else some (.wouldBlock, w)
  | .failed error => if w.Drained then none else some (.failed error, w)

theorem bytesOf_append (xs ys : List (List UInt8)) :
    bytesOf (xs ++ ys) = bytesOf xs ++ bytesOf ys := by
  simp [bytesOf]

/-- Where a frame starts. -/
def boundary (frames : List (List UInt8)) (k : Nat) : Nat := (bytesOf (frames.take k)).length

theorem boundary_append {frames : List (List UInt8)} {k : Nat} (known : k ≤ frames.length)
    (more : List (List UInt8)) : boundary (frames ++ more) k = boundary frames k := by
  rw [boundary, List.take_append_of_le_length known, boundary]

theorem boundary_mono (frames : List (List UInt8)) {j k : Nat} (h : j ≤ k) :
    boundary frames j ≤ boundary frames k := by
  obtain ⟨d, rfl⟩ := Nat.exists_eq_add_of_le h
  rw [boundary, boundary, List.take_add, bytesOf_append, List.length_append]
  exact Nat.le_add_right _ _

theorem ne_boundary {frames : List (List UInt8)} {k position : Nat}
    (behind : boundary frames k < position) (before : position < boundary frames (k + 1)) (j : Nat) :
    position ≠ boundary frames j := by
  rcases Nat.lt_or_ge k j with later | earlier
  · have after := boundary_mono frames (show k + 1 ≤ j from later)
    omega
  · have at_most := boundary_mono frames earlier
    omega

theorem bytesOf_drop {frames : List (List UInt8)} {k : Nat} {payload : List UInt8}
    (here : frames[k]? = some payload) :
    bytesOf (frames.drop k) = frameOf payload ++ bytesOf (frames.drop (k + 1)) := by
  obtain ⟨known, rfl⟩ := List.getElem?_eq_some_iff.mp here
  rw [List.drop_eq_getElem_cons known]
  rfl

theorem boundary_succ {frames : List (List UInt8)} {k : Nat} {payload : List UInt8}
    (here : frames[k]? = some payload) :
    boundary frames (k + 1) = boundary frames k + (frameOf payload).length := by
  have last : frames.take (k + 1) = frames.take k ++ [payload] := by
    rw [List.take_add_one, here]
    rfl
  simp [boundary, last, bytesOf]

/-- What holds of a wire whatever its ends do. -/
structure Valid (w : Wire) : Prop where
  fits : ∀ payload ∈ w.frames, payload.length ≤ MAX_FRAME_BYTES
  position_le : w.position ≤ w.arrived
  arrived_le : w.arrived ≤ w.written
  written_le : w.written ≤ (bytesOf w.frames).length

/-- The reader is inside a frame, of which it has consumed some bytes. -/
structure Inside (w : Wire) (k : Nat) (c : List UInt8) : Prop where
  known : k ≤ w.frames.length
  bytes : c <+: bytesOf (w.frames.drop k)
  position : w.position = boundary w.frames k + c.length

variable {w w' : Wire} {k need count : Nat} {c payload : List UInt8}

theorem new_valid : new.Valid :=
  ⟨by simp [new], Nat.le_refl 0, Nat.le_refl 0, Nat.le_refl 0⟩

theorem Valid.write (h : w.Valid) (opened : w.closed = none)
    (fits : payload.length ≤ MAX_FRAME_BYTES) : (w.write payload).Valid := by
  have all : w.written = (bytesOf w.frames).length := by rw [written, opened]; rfl
  have more : (w.write payload).written = (bytesOf (w.frames ++ [payload])).length := by
    rw [written, Wire.write, opened]
    rfl
  refine ⟨?_, h.position_le, ?_, Nat.le_of_eq more⟩
  · intro p hp
    rcases List.mem_append.mp hp with hp | hp
    · exact h.fits p hp
    · rw [List.mem_singleton.mp hp]
      exact fits
  · have before := h.arrived_le
    rw [more, bytesOf_append, List.length_append, ← all]
    change w.arrived ≤ _
    omega

theorem Valid.arrive (h : w.Valid) (count : Nat) : (w.arrive count).Valid := by
  refine ⟨h.fits, ?_, Nat.min_le_right _ _, h.written_le⟩
  have position := h.position_le
  have arrived := h.arrived_le
  change w.position ≤ min (w.arrived + count) w.written
  omega

theorem Valid.close (h : w.Valid) (count : Nat) : (w.close count).Valid := by
  have arrived := h.arrived_le
  have written := h.written_le
  refine ⟨h.fits, h.position_le, ?_, ?_⟩
  · change w.arrived ≤ max w.arrived _
    omega
  · change max w.arrived _ ≤ (bytesOf w.frames).length
    omega

theorem Inside.write (h : w.Inside k c) (payload : List UInt8) :
    (w.write payload).Inside k c := by
  refine ⟨?_, ?_, ?_⟩
  · exact Nat.le_trans h.known (by simp [Wire.write])
  · change c <+: bytesOf ((w.frames ++ [payload]).drop k)
    rw [List.drop_append_of_le_length h.known, bytesOf_append]
    exact h.bytes.trans (List.prefix_append _ _)
  · change w.position = boundary (w.frames ++ [payload]) k + _
    rw [boundary_append h.known]
    exact h.position

theorem Inside.arrive (h : w.Inside k c) (count : Nat) : (w.arrive count).Inside k c :=
  ⟨h.known, h.bytes, h.position⟩

theorem Inside.close (h : w.Inside k c) (count : Nat) : (w.close count).Inside k c :=
  ⟨h.known, h.bytes, h.position⟩

/-- A reader that has consumed a byte of its frame is inside a frame that was written. -/
theorem Inside.frame (h : w.Inside k c) (begun : c ≠ []) :
    ∃ payload, w.frames[k]? = some payload ∧
      bytesOf (w.frames.drop k) = frameOf payload ++ bytesOf (w.frames.drop (k + 1)) := by
  have known : k < w.frames.length := by
    by_contra beyond
    have empty : w.frames.drop k = [] := List.drop_eq_nil_of_le (by omega)
    have bytes := h.bytes
    rw [empty] at bytes
    exact begun (List.prefix_nil.mp bytes)
  have here := List.getElem?_eq_getElem known
  exact ⟨_, here, bytesOf_drop here⟩

/-- A whole frame consumed is the start of the next. -/
theorem Inside.next (h : w.Inside k (frameOf payload)) (here : w.frames[k]? = some payload) :
    w.Inside (k + 1) [] := by
  refine ⟨?_, List.nil_prefix, ?_⟩
  · obtain ⟨known, _⟩ := List.getElem?_eq_some_iff.mp here
    omega
  · rw [boundary_succ here, h.position]
    rfl

/-- Strictly inside a frame no frame starts. -/
theorem Inside.not_boundary (h : w.Inside k c) (here : w.frames[k]? = some payload) (begun : c ≠ [])
    (part : c.length < (frameOf payload).length) (j : Nat) : w.position ≠ boundary w.frames j := by
  have consumed := List.length_pos_iff.mpr begun
  have position := h.position
  have ends := boundary_succ here
  have behind : boundary w.frames k < w.position := by omega
  exact ne_boundary behind (by omega) j

/-- What a read of a wire meets: the bytes that come next, or none. -/
inductive Met (w : Wire) (need : Nat) : WireRead → ReadResult → Wire → Prop where
  | bytes {count : Nat} {chunk : List UInt8} (some : chunk ≠ []) (room : chunk.length ≤ need)
      (follows : chunk <+: w.available) :
      Met w need (.bytes count) (.ok chunk) { w with position := w.position + chunk.length }
  | zero (drained : w.Drained) : Met w need .zero (.ok []) w
  | interrupted : Met w need .interrupted .interrupted w
  | wouldBlock (more : ¬ w.Drained) : Met w need .wouldBlock .wouldBlock w
  | failed (error : IoError) (more : ¬ w.Drained) : Met w need (.failed error) (.failed error) w

theorem read_met {read : WireRead} {result : ReadResult}
    (h : w.read need read = some (result, w')) : w.Met need read result w' := by
  cases read with
  | bytes count =>
    simp only [Wire.read] at h
    split_ifs at h with empty
    obtain ⟨rfl, rfl⟩ := Prod.mk.inj (Option.some.inj h)
    have room : ((w.available.take need).take count).length ≤ need := by
      rw [List.length_take, List.length_take]
      omega
    exact .bytes empty room ((List.take_prefix _ _).trans (List.take_prefix _ _))
  | zero =>
    simp only [Wire.read] at h
    split_ifs at h with drained
    obtain ⟨rfl, rfl⟩ := Prod.mk.inj (Option.some.inj h)
    exact .zero drained
  | interrupted =>
    obtain ⟨rfl, rfl⟩ := Prod.mk.inj (Option.some.inj h)
    exact .interrupted
  | wouldBlock =>
    simp only [Wire.read] at h
    split_ifs at h with drained
    obtain ⟨rfl, rfl⟩ := Prod.mk.inj (Option.some.inj h)
    exact .wouldBlock drained
  | failed error =>
    simp only [Wire.read] at h
    split_ifs at h with drained
    obtain ⟨rfl, rfl⟩ := Prod.mk.inj (Option.some.inj h)
    exact .failed error drained

theorem read_frames {read : WireRead} {result : ReadResult}
    (h : w.read need read = some (result, w')) : w'.frames = w.frames := by
  cases read_met h <;> rfl

theorem read_closed {read : WireRead} {result : ReadResult}
    (h : w.read need read = some (result, w')) : w'.closed = w.closed := by
  cases read_met h <;> rfl

theorem Valid.read {read : WireRead} {result : ReadResult} (valid : w.Valid)
    (h : w.read need read = some (result, w')) : w'.Valid := by
  cases read_met h with
  | @bytes count chunk _ _ follows =>
    have length := follows.length_le
    rw [available, List.length_drop, List.length_take] at length
    have position := valid.position_le
    refine ⟨valid.fits, ?_, valid.arrived_le, valid.written_le⟩
    change w.position + chunk.length ≤ w.arrived
    omega
  | zero | interrupted | wouldBlock | failed => exact valid

/-- The bytes of a read continue the frame. -/
theorem Inside.append {chunk : List UInt8} (h : w.Inside k c) (next : chunk <+: w.available) :
    { w with position := w.position + chunk.length }.Inside k (c ++ chunk) := by
  refine ⟨h.known, ?_, ?_⟩
  · obtain ⟨rest, split⟩ := h.bytes
    have front : bytesOf w.frames = bytesOf (w.frames.take k) ++ (c ++ rest) := by
      rw [split, ← bytesOf_append, List.take_append_drop]
    have tail : chunk <+: (bytesOf w.frames).drop w.position := by
      refine next.trans ?_
      rw [available, List.drop_take]
      exact List.take_prefix _ _
    rw [front, h.position, ← List.append_assoc] at tail
    have skip : boundary w.frames k + c.length = (bytesOf (w.frames.take k) ++ c).length := by
      rw [List.length_append]
      rfl
    rw [skip, List.drop_left] at tail
    change c ++ chunk <+: bytesOf (w.frames.drop k)
    rw [← split]
    exact (List.prefix_append_right_inj c).mpr tail
  · change w.position + chunk.length = _
    rw [h.position, List.length_append, Nat.add_assoc]

theorem Valid.drained_available (valid : w.Valid) (drained : w.Drained) : w.available = [] := by
  have written : w.written = w.position := by rw [Wire.written, drained, Option.getD_some]
  have arrived := valid.arrived_le
  rw [available, List.drop_eq_nil_iff, List.length_take]
  omega

/-- From a closed wire all of which is consumed, a read brings nothing. -/
theorem Valid.drained_read {read : WireRead} {result : ReadResult} (valid : w.Valid)
    (drained : w.Drained) (h : w.read need read = some (result, w')) :
    w' = w ∧ (read = .zero ∧ result = .ok [] ∨ read = .interrupted ∧ result = .interrupted) := by
  cases read_met h with
  | bytes some _ follows =>
    rw [valid.drained_available drained] at follows
    exact absurd (List.prefix_nil.mp follows) some
  | zero => exact ⟨rfl, .inl ⟨rfl, rfl⟩⟩
  | interrupted => exact ⟨rfl, .inr ⟨rfl, rfl⟩⟩
  | wouldBlock more => exact absurd drained more
  | failed error more => exact absurd drained more

/-- Behind its last byte nothing arrives. -/
theorem Valid.drained_arrive (valid : w.Valid) (drained : w.Drained) (count : Nat) :
    w.arrive count = w := by
  have written : w.written = w.position := by rw [Wire.written, drained, Option.getD_some]
  have position := valid.position_le
  have arrived := valid.arrived_le
  have all : min (w.arrived + count) w.written = w.arrived := by omega
  rw [Wire.arrive, all]

end Wire

end Kesharon.Ipc
