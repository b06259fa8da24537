import Kesharon.Ipc.Program
import Kesharon.Protocol.Codec
import Kesharon.Server.Runtime

namespace Kesharon.Server

open Framework Ipc Protocol

variable {timeout : Nat}

/-- The continuations of `receiveRequest`, behind the payload, the length and the token. -/
def takeBody (token : String) (length : List UInt8) :
    Except IoError (List UInt8) → Reads (Except DaemonError (String × List UInt8))
  | .error error => .done (.error (.io error.message))
  | .ok payload => .done (.ok (token, length ++ payload))

def takeLength (timeout : Nat) (token : String) :
    Except IoError (List UInt8) → Reads (Except DaemonError (String × List UInt8))
  | .error error => .done (.error (.io error.message))
  | .ok length =>
    match validateFrameSize (fromBeBytes length) with
    | .error error => .done (.error error)
    | .ok () => .readExact (fromBeBytes length) timeout (takeBody token length)

def takeToken (timeout : Nat) :
    Except IoError (List UInt8) → Reads (Except DaemonError (String × List UInt8))
  | .error error => .done (.error (.io error.message))
  | .ok token =>
    match String.fromUTF8? token.toByteArray with
    | none => .done (.error .authenticationFailed)
    | some token => .readExact 4 timeout (takeLength timeout token)

theorem receiveRequest_eq (timeout : Nat) :
    receiveRequest timeout = .readExact 64 timeout (takeToken timeout) := rfl

/-- Where a read of a request stands: inside the token, inside the length, inside a payload that is
not too large, or done with an error, or with a token and a frame that is as long as it says. -/
inductive RequestRun (timeout : Nat) :
    Blocked (Except DaemonError (String × List UInt8)) ⊕ Except DaemonError (String × List UInt8) →
      Prop where
  | token {call : ReadExact} (size : call.filled.length + call.need = 64) :
      RequestRun timeout (.inl ⟨call,takeToken timeout⟩)
  | length {token : String} {call : ReadExact} (size : call.filled.length + call.need = 4) :
      RequestRun timeout (.inl ⟨call,takeLength timeout token⟩)
  | payload {token : String} {length : List UInt8} {call : ReadExact} (four : length.length = 4)
      (fits : fromBeBytes length ≤ MAX_FRAME_BYTES)
      (size : call.filled.length + call.need = fromBeBytes length) :
      RequestRun timeout (.inl ⟨call,takeBody token length⟩)
  | failed (error : DaemonError) : RequestRun timeout (.inr (.error error))
  | received (token : String) {frame : List UInt8} (framed : WellFramed frame) :
      RequestRun timeout (.inr (.ok (token, frame)))

theorem validateFrameSize_ok {declared : Nat} (fits : declared ≤ MAX_FRAME_BYTES) :
    validateFrameSize declared = .ok () := by
  unfold validateFrameSize
  rw [if_neg (by omega)]

theorem start_length_run (token : String) {length : List UInt8} (four : length.length = 4) :
    RequestRun timeout (takeLength timeout token (.ok length)).start := by
  unfold takeLength
  dsimp only
  by_cases fits : fromBeBytes length ≤ MAX_FRAME_BYTES
  · rw [validateFrameSize_ok fits]
    dsimp only
    rw [Reads.start_readExact]
    by_cases empty : fromBeBytes length = 0
    · rw [if_pos empty]
      exact .received token (wellFramed_append four fits empty.symm)
    · rw [if_neg empty]
      exact .payload four fits (Nat.zero_add _)
  · unfold validateFrameSize
    rw [if_pos (by omega)]
    exact .failed _

theorem start_token_run (token : List UInt8) :
    RequestRun timeout (takeToken timeout (.ok token)).start := by
  unfold takeToken
  dsimp only
  cases String.fromUTF8? token.toByteArray with
  | none => exact .failed _
  | some text => exact .length rfl

theorem RequestRun.turns
    {s : Blocked (Except DaemonError (String × List UInt8)) ⊕
      Except DaemonError (String × List UInt8)} (h : RequestRun timeout s) (ts : List Turn) :
    RequestRun timeout (Blocked.turns s ts) := by
  induction ts generalizing s with
  | nil => cases s <;> exact h
  | cons t ts ih =>
    cases h with
    | @token call size =>
      apply ih
      apply Blocked.turn_sized size t
      · intro call' size'
        exact .token size'
      · intro e
        exact .failed _
      · intro bytes _
        exact start_token_run bytes
    | @length token call size =>
      apply ih
      apply Blocked.turn_sized size t
      · intro call' size'
        exact .length size'
      · intro e
        exact .failed _
      · intro bytes four
        exact start_length_run token four
    | @payload token length call four fits size =>
      apply ih
      apply Blocked.turn_sized size t
      · intro call' size'
        exact .payload four fits size'
      · intro e
        exact .failed _
      · intro bytes whole
        exact .received token (wellFramed_append four fits whole)
    | failed error => exact .failed error
    | received token framed => exact .received token framed

theorem receiveRequest_run (timeout : Nat) (ts : List Turn) :
    RequestRun timeout ((receiveRequest timeout).run ts) := by
  have start : RequestRun timeout (receiveRequest timeout).start := by
    rw [receiveRequest_eq]
    exact .token rfl
  exact start.turns ts

/-- A token and a frame are taken, and nothing behind them is read. -/
theorem consume_receiveRequest {token : String} {frame : List UInt8}
    (hex : (utf8 token).length = 64) (framed : WellFramed frame) (rest : List UInt8) :
    (receiveRequest timeout).consume (utf8 token ++ frame ++ rest) =
      some (.ok (token, frame), rest) := by
  obtain ⟨prefixed, size, fits⟩ := framed
  have four : (frame.take 4).length = 4 := List.length_take_of_le prefixed
  have body : (frame.drop 4).length = fromBeBytes (frame.take 4) := by
    rw [List.length_drop, size]
  have split : frame ++ rest = frame.take 4 ++ (frame.drop 4 ++ rest) := by
    rw [← List.append_assoc, List.take_append_drop]
  rw [receiveRequest_eq, List.append_assoc, Reads.consume_readExact hex]
  unfold takeToken
  dsimp only
  rw [fromUTF8?_utf8]
  dsimp only
  rw [split, Reads.consume_readExact four]
  unfold takeLength
  dsimp only
  rw [validateFrameSize_ok (by omega)]
  dsimp only
  rw [Reads.consume_readExact body]
  unfold takeBody Reads.consume
  rw [List.take_append_drop]

/-- Behind a length that is too large nothing is read. -/
theorem consume_receiveRequest_large {token : String} {length : List UInt8}
    (hex : (utf8 token).length = 64) (four : length.length = 4)
    (large : MAX_FRAME_BYTES < fromBeBytes length) (rest : List UInt8) :
    (receiveRequest timeout).consume (utf8 token ++ length ++ rest) =
      some (.error (.frameTooLarge (fromBeBytes length) MAX_FRAME_BYTES), rest) := by
  rw [receiveRequest_eq, List.append_assoc, Reads.consume_readExact hex]
  unfold takeToken
  dsimp only
  rw [fromUTF8?_utf8]
  dsimp only
  rw [Reads.consume_readExact four]
  unfold takeLength validateFrameSize
  dsimp only
  rw [if_pos large]
  rfl

end Kesharon.Server
