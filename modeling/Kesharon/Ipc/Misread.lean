import Kesharon.Ipc.Wire
import Kesharon.Protocol.StreamText
import Mathlib.Data.List.Basic

namespace Kesharon.Ipc

open Framework Protocol

namespace Wire

/-- Every place in the bytes of frames is inside one of them. -/
theorem inside_of_lt {frames : List (List UInt8)} {p : Nat} (h : p < (bytesOf frames).length) :
    ∃ k payload o, frames[k]? = some payload ∧ o < (frameOf payload).length ∧
      p = boundary frames k + o := by
  induction frames generalizing p with
  | nil => exact absurd h (Nat.not_lt_zero p)
  | cons payload frames ih =>
    have whole : (bytesOf (payload :: frames)).length =
        (frameOf payload).length + (bytesOf frames).length := by
      simp [bytesOf]
    by_cases first : p < (frameOf payload).length
    · exact ⟨0, payload, p, rfl, first, (Nat.zero_add p).symm⟩
    · obtain ⟨k, payload', o, here, short, place⟩ := @ih (p - (frameOf payload).length) (by omega)
      refine ⟨k + 1, payload', o, here, short, ?_⟩
      have shifted : boundary (payload :: frames) (k + 1) =
          (frameOf payload).length + boundary frames k := by
        simp [boundary, bytesOf]
      omega

/-- What follows a place inside a frame. -/
theorem drop_inside {frames : List (List UInt8)} {k o : Nat} {payload : List UInt8}
    (here : frames[k]? = some payload) (short : o ≤ (frameOf payload).length) :
    (bytesOf frames).drop (boundary frames k + o) =
      (frameOf payload).drop o ++ bytesOf (frames.drop (k + 1)) := by
  have split : bytesOf frames = bytesOf (frames.take k) ++ bytesOf (frames.drop k) := by
    rw [← bytesOf_append, List.take_append_drop]
  rw [← List.drop_drop, boundary]
  conv_lhs => rw [split]
  rw [List.drop_left, bytesOf_drop here, List.drop_append_of_le_length short]

end Wire

section Misread

variable {json : SerdeJson StreamMessage} {payload rest frame : List UInt8} {m : StreamMessage}

/-- From the start of a frame, a reader gets that frame. -/
theorem read_at_start (fits : payload.length ≤ MAX_FRAME_BYTES) (framed : WellFramed frame)
    (bytes : frame <+: frameOf payload ++ rest) : frame = frameOf payload := by
  obtain ⟨four, declared, small⟩ := framed
  have same : frame.take 4 = toBeBytes 4 payload.length := by
    obtain ⟨more, split⟩ := bytes
    have front : (frame ++ more).take 4 = frame.take 4 := List.take_append_of_le_length four
    rw [← front, split, frameOf, List.append_assoc, List.take_left' (toBeBytes_length _ _)]
  have size : frame.length = (frameOf payload).length := by
    rw [frameOf_length]
    rw [same, declared_of_fits fits] at declared
    omega
  exact (List.prefix_of_prefix_length_le bytes (List.prefix_append _ _) (by omega)).eq_of_length size

/-- Behind a length that is not zero comes the payload. -/
theorem payload_of_wellFramed {length tail : List UInt8} {b : UInt8} (framed : WellFramed frame)
    (reads : json.ReadsObjects) (decoded : json.fromSlice (frame.drop 4) = .ok m)
    (four : length.length = 4) (bytes : frame <+: length ++ b :: tail) : b ∈ structureStarts := by
  obtain ⟨c, more, split, start⟩ := reads _ _ decoded
  obtain ⟨last, whole⟩ := bytes
  have front : (frame ++ last).drop 4 = frame.drop 4 ++ last :=
    List.drop_append_of_le_length framed.1
  rw [whole, List.drop_left' four, split] at front
  rw [(List.cons.inj front).1]
  exact start

/-- A reader that begins in the payload of a frame finds a length that is too large. -/
theorem no_read_in_payload (clear : Unmistakable payload) {o : Nat} (short : o < payload.length)
    (framed : WellFramed frame) (bytes : frame <+: payload.drop o ++ rest) : False := by
  obtain ⟨four, declared, small⟩ := framed
  rw [List.drop_eq_getElem_cons short, List.cons_append] at bytes
  cases frame with
  | nil => cases four
  | cons b tail =>
    obtain ⟨rfl, _⟩ := List.cons_prefix_cons.mp bytes
    have graphic := clear.graphic _ (List.getElem_mem short)
    have large := @declared_of_graphic _ tail graphic (by simpa using four)
    omega

/-- Inside a frame of a stream message nothing is read that decodes: behind one, two or three bytes
of the length comes no object, and in the payload no length. -/
theorem no_misread (clear : Unmistakable payload) {o : Nat} (inside : 0 < o)
    (short : o < (frameOf payload).length) (framed : WellFramed frame) (reads : json.ReadsObjects)
    (decoded : json.fromSlice (frame.drop 4) = .ok m)
    (bytes : frame <+: (frameOf payload).drop o ++ rest) : False := by
  obtain ⟨text, opens⟩ := clear.opening
  have size : (toBeBytes 4 payload.length).length = 4 := toBeBytes_length _ _
  by_cases later : 4 ≤ o
  · rw [frameOf_length] at short
    obtain ⟨d, rfl⟩ := Nat.exists_eq_add_of_le later
    rw [frameOf, ← List.drop_drop, List.drop_left' size] at bytes
    exact no_read_in_payload clear (by omega) framed bytes
  · have none (length tail : List UInt8) (b : UInt8) (four : length.length = 4)
        (split : (frameOf payload).drop o ++ rest = length ++ b :: tail) :
        b ∈ structureStarts := by
      rw [split] at bytes
      exact payload_of_wellFramed framed reads decoded four bytes
    rw [frameOf, opens] at none
    rw [opens] at size
    generalize toBeBytes 4 ([0x7b,0x22,0x6d,0x65] ++ text).length = length at none size
    obtain ⟨a, b, c, d, rfl⟩ := List.length_eq_four.mp size
    have place : o = 1 ∨ o = 2 ∨ o = 3 := by omega
    rcases place with rfl | rfl | rfl
    · exact absurd (none [b,c,d,0x7b] ([0x6d,0x65] ++ text ++ rest) 0x22 rfl rfl) (by decide)
    · exact absurd (none [c,d,0x7b,0x22] ([0x65] ++ text ++ rest) 0x6d rfl rfl) (by decide)
    · exact absurd (none [d,0x7b,0x22,0x6d] (text ++ rest) 0x65 rfl rfl) (by decide)

/-- Among frames whose payloads cannot be mistaken, whatever decodes was read from the start of a
frame, and is that frame. -/
theorem read_aligned {frames : List (List UInt8)} {first p : Nat}
    (fits : ∀ payload ∈ frames, payload.length ≤ MAX_FRAME_BYTES)
    (clear : ∀ (k : Nat) payload, first ≤ k → frames[k]? = some payload → Unmistakable payload)
    (behind : Wire.boundary frames first ≤ p) (framed : WellFramed frame)
    (bytes : frame <+: (Wire.bytesOf frames).drop p) (reads : json.ReadsObjects)
    (decoded : json.fromSlice (frame.drop 4) = .ok m) :
    ∃ k payload, first ≤ k ∧ frames[k]? = some payload ∧ p = Wire.boundary frames k ∧
      frame = frameOf payload := by
  have more : p < (Wire.bytesOf frames).length := by
    have long := bytes.length_le
    rw [List.length_drop] at long
    have four := framed.1
    omega
  obtain ⟨k, payload, o, here, short, rfl⟩ := Wire.inside_of_lt more
  rw [Wire.drop_inside here (Nat.le_of_lt short)] at bytes
  have late : first ≤ k := by
    by_contra early
    have ends := Wire.boundary_succ here
    have before := Wire.boundary_mono frames (show k + 1 ≤ first by omega)
    omega
  rcases Nat.eq_zero_or_pos o with rfl | inside
  · exact ⟨k, payload, late, here, rfl,
      read_at_start (fits payload (List.mem_of_getElem? here)) framed bytes⟩
  · exact (no_misread (clear k payload late here) inside short framed reads decoded bytes).elim

end Misread

end Kesharon.Ipc
