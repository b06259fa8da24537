import Kesharon.Host.Client
import Kesharon.Ipc.Reads
import Kesharon.Ipc.Wire

namespace Kesharon.Host

open Framework Ipc Protocol

variable {α : Type} {timeout : Nat} {next : List UInt8 → Reads (Except HostError α)}

/-- A call inside `readFrame`, with the bytes of its frame that it has consumed. -/
inductive InFrame (timeout : Nat) (next : List UInt8 → Reads (Except HostError α)) :
    List UInt8 → Blocked (Except HostError α) → Prop where
  | length {filled : List UInt8} {remaining : Nat} (short : filled.length < 4) :
      InFrame timeout next filled
        ⟨⟨4 - filled.length,filled,remaining⟩,readPayload timeout next⟩
  | payload {length filled : List UInt8} {remaining : Nat} (four : length.length = 4)
      (fits : fromBeBytes length ≤ MAX_FRAME_BYTES)
      (short : filled.length < fromBeBytes length) :
      InFrame timeout next (length ++ filled)
        ⟨⟨fromBeBytes length - filled.length,filled,remaining⟩,takePayload next length⟩

theorem start_readFrame (timeout : Nat) (next : List UInt8 → Reads (Except HostError α)) :
    ∃ b, (readFrame timeout next).start = .inl b ∧ InFrame timeout next [] b :=
  ⟨_, rfl, .length (by simp)⟩

/-- A length prefix that starts a frame is the frame's. -/
theorem length_eq_of_bytes {length filled payload rest : List UInt8} (four : length.length = 4)
    (bytes : length ++ filled <+: frameOf payload ++ rest) :
    length = toBeBytes 4 payload.length ∧ filled <+: payload ++ rest := by
  obtain ⟨more, split⟩ := bytes
  rw [frameOf, List.append_assoc, List.append_assoc] at split
  obtain ⟨hlength, htail⟩ := List.append_inj split (by rw [four, toBeBytes_length])
  exact ⟨hlength, more, htail⟩

namespace InFrame

variable {c : List UInt8} {b : Blocked (Except HostError α)}

/-- Inside a frame, not all of it is consumed. -/
theorem consumed_lt {payload rest : List UInt8} (h : InFrame timeout next c b)
    (fits : payload.length ≤ MAX_FRAME_BYTES) (bytes : c <+: frameOf payload ++ rest) :
    c.length < (frameOf payload).length := by
  rw [frameOf_length]
  cases h with
  | length short => omega
  | payload four _ short =>
    rw [(length_eq_of_bytes four bytes).1, declared_of_fits fits] at short
    rw [List.length_append, four]
    omega

/-- Behind the length prefix of a frame that fits, its payload is read. -/
theorem start_payload {payload : List UInt8} (fits : payload.length ≤ MAX_FRAME_BYTES) :
    let length := toBeBytes 4 payload.length
    (∃ b, (readPayload timeout next (.ok length)).start = .inl b ∧
        InFrame timeout next length b) ∨
      (length = frameOf payload ∧
        (readPayload timeout next (.ok length)).start = (next (frameOf payload)).start) := by
  intro length
  have declared := declared_of_fits fits
  have read : readPayload timeout next (.ok length) =
      .readExact payload.length timeout (takePayload next length) := by
    unfold readPayload
    dsimp only
    rw [declared, if_neg (by omega)]
  rw [read, Reads.start_readExact]
  by_cases empty : payload.length = 0
  · obtain rfl := List.eq_nil_of_length_eq_zero empty
    exact .inr ⟨by simp [length, frameOf], rfl⟩
  · rw [if_neg empty]
    have inside : InFrame timeout next (length ++ [])
        ⟨⟨fromBeBytes length - ([] : List UInt8).length,[],timeout⟩,takePayload next length⟩ :=
      .payload (toBeBytes_length _ _) (by rw [declared]; exact fits)
        (by rw [declared, List.length_nil]; omega)
    rw [declared, List.append_nil] at inside
    exact .inl ⟨_, rfl, inside⟩

/-- Bytes that arrive: the call is further inside its frame, or has it whole. -/
theorem bytes {payload rest chunk : List UInt8} (h : InFrame timeout next c b)
    (fits : payload.length ≤ MAX_FRAME_BYTES) (some : chunk ≠ [])
    (room : chunk.length ≤ b.call.need) (bytes : c ++ chunk <+: frameOf payload ++ rest)
    (late : Nat) :
    (∃ b', b.turn ⟨.ok chunk,late⟩ = .inl b' ∧ InFrame timeout next (c ++ chunk) b') ∨
      (c ++ chunk = frameOf payload ∧
        b.turn ⟨.ok chunk,late⟩ = (next (frameOf payload)).start) := by
  have filling : b.call.turn ⟨.ok chunk,late⟩ = b.call.fill chunk := by
    cases chunk with
    | nil => exact absurd rfl some
    | cons byte bytes =>
      unfold ReadExact.turn
      dsimp only
      rw [List.take_of_length_le room]
  unfold Blocked.turn
  rw [filling]
  unfold ReadExact.fill
  cases h with
  | @length filled remaining short =>
    dsimp only at room ⊢
    by_cases full : 4 - c.length ≤ chunk.length
    · rw [if_pos full]
      have four : (c ++ chunk).length = 4 := by
        rw [List.length_append]
        omega
      have whole : c ++ chunk = toBeBytes 4 payload.length :=
        (length_eq_of_bytes four (by rw [List.append_nil]; exact bytes)).1
      rw [whole]
      exact start_payload fits
    · rw [if_neg full]
      refine .inl ⟨_, rfl, ?_⟩
      have inside : InFrame timeout next (c ++ chunk)
          ⟨⟨4 - (c ++ chunk).length,c ++ chunk,remaining⟩,readPayload timeout next⟩ :=
        .length (by rw [List.length_append]; omega)
      rwa [List.length_append, ← Nat.sub_sub] at inside
  | @payload length filled remaining four _ short =>
    dsimp only at room ⊢
    rw [List.append_assoc] at bytes ⊢
    obtain ⟨rfl, tail⟩ := length_eq_of_bytes four bytes
    rw [declared_of_fits fits] at short room ⊢
    by_cases full : payload.length - filled.length ≤ chunk.length
    · rw [if_pos full]
      have whole : filled ++ chunk = payload := by
        apply (List.prefix_of_prefix_length_le tail (List.prefix_append _ _) ?_).eq_of_length ?_
        all_goals rw [List.length_append]; omega
      rw [whole]
      exact .inr ⟨rfl, rfl⟩
    · rw [if_neg full]
      refine .inl ⟨_, rfl, ?_⟩
      have inside : InFrame timeout next (toBeBytes 4 payload.length ++ (filled ++ chunk))
          ⟨⟨fromBeBytes (toBeBytes 4 payload.length) - (filled ++ chunk).length,filled ++ chunk,
            remaining⟩,takePayload next (toBeBytes 4 payload.length)⟩ :=
        .payload four (by rw [declared_of_fits fits]; exact fits)
          (by rw [declared_of_fits fits, List.length_append]; omega)
      rwa [declared_of_fits fits, List.length_append, ← Nat.sub_sub] at inside

/-- A read that brings no bytes: the call waits where it is, or fails. -/
theorem idle (h : InFrame timeout next c b) {result : ReadResult}
    (none : ∀ chunk, result = .ok chunk → chunk = []) (late : Nat) :
    (∃ b', b.turn ⟨result,late⟩ = .inl b' ∧ InFrame timeout next c b') ∨
      ∃ e, b.call.turn ⟨result,late⟩ = .inr (.error e) ∧
        b.turn ⟨result,late⟩ = .inr (.error (.io e)) := by
  unfold Blocked.turn
  rcases b.call.turn_idle (t := ⟨result,late⟩) none with ⟨remaining, waits⟩ | ⟨e, failed⟩
  · rw [waits]
    refine .inl ⟨_, rfl, ?_⟩
    cases h with
    | length short => exact .length short
    | payload four fits short => exact .payload four fits short
  · rw [failed]
    refine .inr ⟨e, rfl, ?_⟩
    cases h <;> rfl

end InFrame

end Kesharon.Host
