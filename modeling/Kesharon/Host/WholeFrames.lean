import Kesharon.Host.Client
import Kesharon.Ipc.Program
import Kesharon.Protocol.Codec

namespace Kesharon.Host

open Framework Ipc Protocol

variable {α : Type} {timeout : Nat} {next : List UInt8 → Reads (Except HostError α)}

/-- Where a read of a frame stands: inside the length, inside a payload that is not too large, or
done with an error, or with the refusal of a length, or gone on with a frame that is as long as
it says. -/
inductive FrameRun (timeout : Nat) (next : List UInt8 → Reads (Except HostError α)) :
    Blocked (Except HostError α) ⊕ Except HostError α → Prop where
  | length {call : ReadExact} (size : call.filled.length + call.need = 4) :
      FrameRun timeout next (.inl ⟨call,readPayload timeout next⟩)
  | payload {length : List UInt8} {call : ReadExact} (four : length.length = 4)
      (fits : fromBeBytes length ≤ MAX_FRAME_BYTES)
      (size : call.filled.length + call.need = fromBeBytes length) :
      FrameRun timeout next (.inl ⟨call,takePayload next length⟩)
  | failed (error : IoError) : FrameRun timeout next (.inr (.error (.io error)))
  | refused {declared : Nat} (large : MAX_FRAME_BYTES < declared) :
      FrameRun timeout next (.inr (.error (.protocol (.frameTooLarge declared MAX_FRAME_BYTES))))
  | handed {frame : List UInt8} (turns : List Turn) (framed : WellFramed frame) :
      FrameRun timeout next ((next frame).run turns)

theorem start_payload_run {length : List UInt8} (four : length.length = 4) :
    FrameRun timeout next (readPayload timeout next (.ok length)).start := by
  unfold readPayload
  dsimp only
  by_cases large : MAX_FRAME_BYTES < fromBeBytes length
  · rw [if_pos large]
    exact .refused large
  · have fits := Nat.not_lt.mp large
    rw [if_neg large, Reads.start_readExact]
    by_cases empty : fromBeBytes length = 0
    · rw [if_pos empty]
      have framed : WellFramed (length ++ []) := wellFramed_append four fits empty.symm
      have handed := @FrameRun.handed α timeout next _ [] framed
      rwa [Reads.run_nil] at handed
    · rw [if_neg empty]
      exact .payload four fits (Nat.zero_add _)

/-- Whatever the reads bring, a read of a frame is at one of these places. -/
theorem FrameRun.turns {s : Blocked (Except HostError α) ⊕ Except HostError α}
    (h : FrameRun timeout next s) (ts : List Turn) : FrameRun timeout next (Blocked.turns s ts) := by
  induction ts generalizing s with
  | nil => cases s <;> exact h
  | cons t ts ih =>
    cases h with
    | @length call size =>
      apply ih
      apply Blocked.turn_sized size t
      · intro call' size'
        exact .length size'
      · intro e
        exact .failed e
      · intro bytes four
        exact start_payload_run four
    | @payload length call four fits size =>
      apply ih
      apply Blocked.turn_sized size t
      · intro call' size'
        exact .payload four fits size'
      · intro e
        exact .failed e
      · intro bytes whole
        have handed := @FrameRun.handed α timeout next _ [] (wellFramed_append four fits whole)
        rwa [Reads.run_nil] at handed
    | failed error => exact .failed error
    | refused large => exact .refused large
    | @handed frame turns framed =>
      rw [← Reads.run_append]
      exact .handed _ framed

theorem readFrame_run (timeout : Nat) (next : List UInt8 → Reads (Except HostError α))
    (ts : List Turn) : FrameRun timeout next ((readFrame timeout next).run ts) := by
  have start : FrameRun timeout next (readFrame timeout next).start := .length rfl
  exact start.turns ts

/-- A frame is handed on, and nothing behind it is read. -/
theorem consume_readFrame {payload : List UInt8} (fits : payload.length ≤ MAX_FRAME_BYTES)
    (rest : List UInt8) :
    (readFrame timeout next).consume (frameOf payload ++ rest) =
      (next (frameOf payload)).consume rest := by
  have declared := declared_of_fits fits
  unfold readFrame
  rw [frameOf, List.append_assoc, Reads.consume_readExact (toBeBytes_length _ _)]
  unfold readPayload
  dsimp only
  rw [declared, if_neg (by omega), Reads.consume_readExact rfl]
  rfl

/-- Behind a length that is too large nothing is read. -/
theorem consume_readFrame_large {length : List UInt8} (four : length.length = 4)
    (large : MAX_FRAME_BYTES < fromBeBytes length) (rest : List UInt8) :
    (readFrame timeout next).consume (length ++ rest) =
      some (.error (.protocol (.frameTooLarge (fromBeBytes length) MAX_FRAME_BYTES)), rest) := by
  unfold readFrame
  rw [Reads.consume_readExact four]
  unfold readPayload
  dsimp only
  rw [if_pos large]
  rfl

end Kesharon.Host
