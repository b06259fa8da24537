import Kesharon.Host.StreamIdentity
import Kesharon.Ipc.Misread

namespace Kesharon.Host

open Framework Ipc Protocol

section Chunks

variable {α : Type} {timeout : Nat} {next : List UInt8 → Reads (Except HostError α)}
variable {c chunk : List UInt8} {b : Blocked (Except HostError α)}

/-- Behind any four bytes: the payload they declare, or an error. -/
theorem readPayload_start {length : List UInt8} (four : length.length = 4) :
    (∃ b, (readPayload timeout next (.ok length)).start = .inl b ∧
        InFrame timeout next length b) ∨
      (readPayload timeout next (.ok length)).start = (next length).start ∨
        ∃ e, (readPayload timeout next (.ok length)).start = .inr (.error e) := by
  unfold readPayload
  dsimp only
  split_ifs with large
  · exact .inr (.inr ⟨_, rfl⟩)
  · rw [Reads.start_readExact]
    by_cases empty : fromBeBytes length = 0
    · rw [if_pos empty]
      refine .inr (.inl ?_)
      change (next (length ++ [])).start = _
      rw [List.append_nil]
    · rw [if_neg empty]
      have inside : InFrame timeout next (length ++ [])
          ⟨⟨fromBeBytes length - ([] : List UInt8).length,[],timeout⟩,takePayload next length⟩ :=
        .payload four (Nat.le_of_not_lt large) (by rw [List.length_nil]; omega)
      rw [List.append_nil] at inside
      exact .inl ⟨_, rfl, inside⟩

/-- Wherever it began, a call that gets bytes goes on behind them, has a whole frame, or fails. -/
theorem InFrame.anywhere (h : InFrame timeout next c b) (some : chunk ≠ [])
    (room : chunk.length ≤ b.call.need) (late : Nat) :
    (∃ b', b.turn ⟨.ok chunk,late⟩ = .inl b' ∧ InFrame timeout next (c ++ chunk) b') ∨
      b.turn ⟨.ok chunk,late⟩ = (next (c ++ chunk)).start ∨
        ∃ e, b.turn ⟨.ok chunk,late⟩ = .inr (.error e) := by
  have filling : b.call.turn ⟨.ok chunk,late⟩ = b.call.fill chunk := by
    cases chunk with
    | nil => exact absurd rfl some
    | cons byte bytes =>
      unfold ReadExact.turn
      dsimp only
      rw [List.take_of_length_le room]
  unfold Blocked.turn
  rw [filling]
  unfold ReadExact.fill
  cases h with
  | @length _ remaining short =>
    dsimp only at room ⊢
    by_cases full : 4 - c.length ≤ chunk.length
    · rw [if_pos full]
      exact readPayload_start (by rw [List.length_append]; omega)
    · rw [if_neg full]
      refine .inl ⟨_, rfl, ?_⟩
      have inside : InFrame timeout next (c ++ chunk)
          ⟨⟨4 - (c ++ chunk).length,c ++ chunk,remaining⟩,readPayload timeout next⟩ :=
        .length (by rw [List.length_append]; omega)
      rwa [List.length_append, ← Nat.sub_sub] at inside
  | @payload length filled remaining four fits short =>
    dsimp only at room ⊢
    rw [List.append_assoc]
    by_cases full : fromBeBytes length - filled.length ≤ chunk.length
    · rw [if_pos full]
      exact .inr (.inl rfl)
    · rw [if_neg full]
      refine .inl ⟨_, rfl, ?_⟩
      have inside : InFrame timeout next (length ++ (filled ++ chunk))
          ⟨⟨fromBeBytes length - (filled ++ chunk).length,filled ++ chunk,remaining⟩,
            takePayload next length⟩ :=
        .payload four fits (by rw [List.length_append]; omega)
      rwa [List.length_append, ← Nat.sub_sub] at inside

end Chunks

/-- A place behind the two frames of a handshake. -/
structure Past (frames : List (List UInt8)) (p : Nat) : Prop where
  known : 2 ≤ frames.length
  behind : Wire.boundary frames 2 ≤ p

theorem Past.write {frames : List (List UInt8)} {p : Nat} (h : Past frames p)
    (payload : List UInt8) : Past (frames ++ [payload]) p := by
  refine ⟨?_, ?_⟩
  · rw [List.length_append]
    exact Nat.le_add_right_of_le h.known
  · rw [Wire.boundary_append h.known]
    exact h.behind

theorem Past.mono {frames : List (List UInt8)} {p q : Nat} (h : Past frames p) (le : p ≤ q) :
    Past frames q := ⟨h.known, Nat.le_trans h.behind le⟩

/-- A read of a message has consumed these bytes, from where it began. -/
structure Consumed (client : DaemonClient) (wire : Wire) (started : Nat)
    (b : Blocked (Except HostError StreamMessage)) (c : List UInt8) : Prop where
  frame : InFrame READ_TIMEOUT (decodeMessage client.messages) c b
  bytes : c <+: (Wire.bytesOf wire.frames).drop started
  position : wire.position = started + c.length

/-- Where the reading end stands in any run: in a handshake, or behind it, at any place. -/
structure Reader (client : DaemonClient) (s : HostStream) : Prop where
  greets : Greets client s
  past : s.call = none → s.worker.location.MayRead → Past s.wire.frames s.wire.position
  reading : ∀ b, s.call = some (.reading b) →
    Past s.wire.frames s.started ∧ ∃ c, Consumed client s.wire s.started b c

section Steps

variable {client : DaemonClient} {s s' : HostStream} {a : StreamAction} {o : StreamOutput}

theorem reader_new : Reader client HostStream.new := by
  refine ⟨⟨Wire.new_valid, ?_⟩, ?_, ?_⟩
  · intro b calling
    cases calling
  · intro _ mayRead
    exact mayRead.elim
  · intro b calling
    cases calling

/-- A handshake that is done ends behind its second frame. -/
theorem Greeting.past {wire wire' : Wire} {b : Blocked (Except HostError DaemonSubscription)}
    {read : WireRead} {result : ReadResult} (h : Greeting client wire b) (valid : wire.Valid)
    (met : wire.read b.call.need read = some (result, wire')) {late : Nat}
    {subscription : DaemonSubscription}
    (done : b.turn ⟨result,late⟩ = .inr (.ok subscription)) : Past wire'.frames wire'.position := by
  cases h with
  | response frame inside =>
    rcases frame.turn valid inside met late with
      ⟨c', b', waits, _⟩ | ⟨payload, here, inside', next⟩ | ⟨e, _, failed, _⟩
    · cases waits.symm.trans done
    · exact absurd (next.symm.trans done)
        ((takeReady_goes_on client (frameOf payload)).1 subscription)
    · cases failed.symm.trans done
  | snapshot frame inside announces =>
    rcases frame.turn valid inside met late with
      ⟨c', b', waits, _⟩ | ⟨payload, here, inside', next⟩ | ⟨e, _, failed, _⟩
    · cases waits.symm.trans done
    · refine ⟨inside'.known, ?_⟩
      rw [inside'.position]
      exact Nat.le_add_right _ _
    · cases failed.symm.trans done

/-- A turn of a read goes on, or ends it; a message is decoded from what the read has consumed. -/
theorem Consumed.turn {wire wire' : Wire} {started late : Nat} {c : List UInt8}
    {b : Blocked (Except HostError StreamMessage)} {read : WireRead} {result : ReadResult}
    (h : Consumed client wire started b c)
    (met : wire.read b.call.need read = some (result, wire')) :
    (∃ b' c', b.turn ⟨result,late⟩ = .inl b' ∧ Consumed client wire' started b' c') ∨
      ∃ r c', b.turn ⟨result,late⟩ = .inr r ∧ c' <+: (Wire.bytesOf wire'.frames).drop started ∧
        wire'.position = started + c'.length ∧
        ∀ message, r = .ok message → decodeStreamMessageFrame client.messages c' = .ok message := by
  have idle (none : ∀ chunk, result = .ok chunk → chunk = []) (same : wire' = wire) :
      (∃ b' c', b.turn ⟨result,late⟩ = .inl b' ∧ Consumed client wire' started b' c') ∨
        ∃ r c', b.turn ⟨result,late⟩ = .inr r ∧ c' <+: (Wire.bytesOf wire'.frames).drop started ∧
          wire'.position = started + c'.length ∧
          ∀ message, r = .ok message →
            decodeStreamMessageFrame client.messages c' = .ok message := by
    rw [same]
    rcases h.frame.idle none late with ⟨b', waits, frame⟩ | ⟨e, _, done⟩
    · exact .inl ⟨b', c, waits, frame, h.bytes, h.position⟩
    · refine .inr ⟨_, c, done, h.bytes, h.position, ?_⟩
      intro message ok
      cases ok
  cases Wire.read_met met with
  | @bytes count chunk some room follows =>
    have longer : c ++ chunk <+: (Wire.bytesOf wire.frames).drop started := by
      have tail : chunk <+: (Wire.bytesOf wire.frames).drop wire.position := by
        refine follows.trans ?_
        rw [Wire.available, List.drop_take]
        exact List.take_prefix _ _
      obtain ⟨rest, split⟩ := h.bytes
      rw [h.position, ← List.drop_drop, ← split, List.drop_left] at tail
      rw [← split]
      exact (List.prefix_append_right_inj c).mpr tail
    have place : wire.position + chunk.length = started + (c ++ chunk).length := by
      rw [h.position, List.length_append, Nat.add_assoc]
    rcases h.frame.anywhere some room late with ⟨b', waits, frame⟩ | done | ⟨e, failed⟩
    · exact .inl ⟨b', _, waits, frame, longer, place⟩
    · refine .inr ⟨_, _, done, longer, place, ?_⟩
      intro message ok
      cases decoded : decodeStreamMessageFrame client.messages (c ++ chunk) with
      | error e => simp [decoded, Except.mapError] at ok
      | ok found =>
        rw [decoded] at ok
        rw [Except.ok.inj ok]
    · refine .inr ⟨_, _, failed, longer, place, ?_⟩
      intro message ok
      cases ok
  | zero | interrupted | wouldBlock | failed => exact idle (by simp) rfl

/-- What the other end does leaves the reader where it is. -/
theorem Reader.wire {wire : Wire} (h : Reader client s) (greets : Greets client { s with wire := wire })
    (frames : wire.frames = s.wire.frames ∨ ∃ payload, wire.frames = s.wire.frames ++ [payload])
    (still : wire.position = s.wire.position) : Reader client { s with wire := wire } := by
  have past {p : Nat} (before : Past s.wire.frames p) : Past wire.frames p := by
    rcases frames with same | ⟨payload, more⟩
    · rw [same]
      exact before
    · rw [more]
      exact before.write payload
  have bytes {p : Nat} {c : List UInt8} (before : c <+: (Wire.bytesOf s.wire.frames).drop p) :
      c <+: (Wire.bytesOf wire.frames).drop p := by
    rcases frames with same | ⟨payload, more⟩
    · rw [same]
      exact before
    · rw [more, Wire.bytesOf_append, List.drop_append]
      exact before.trans (List.prefix_append _ _)
  refine ⟨greets, ?_, ?_⟩
  · intro free mayRead
    change Past wire.frames wire.position
    rw [still]
    exact past (h.past free mayRead)
  · intro b calling
    obtain ⟨began, c, consumed⟩ := h.reading b calling
    exact ⟨past began, c, consumed.frame, bytes consumed.bytes, still.trans consumed.position⟩

theorem Reader.step (h : Reader client s) (step : s.step client a = some (s', o)) :
    Reader client s' := by
  have greets := h.greets.step step
  cases HostStream.step_moves step with
  | worker reads subscribes refused moved =>
    refine ⟨greets, ?_, h.reading⟩
    intro free mayRead
    exact h.past free (StreamWorker.step_mayRead moved reads subscribes mayRead)
  | connected here free start =>
    refine ⟨greets, ?_, ?_⟩
    · intro busy
      cases busy
    · intro b calling
      cases calling
  | @began b here free start =>
    refine ⟨greets, ?_, ?_⟩
    · intro busy
      cases busy
    · intro b' calling
      obtain ⟨first, start', frame⟩ := start_readFrame READ_TIMEOUT (decodeMessage client.messages)
      obtain rfl := Sum.inl.inj (start'.symm.trans start)
      cases calling
      have mayRead : s.worker.location.MayRead := by
        rw [here]
        trivial
      exact ⟨h.past free mayRead, [], frame, List.nil_prefix, rfl⟩
  | subscribing call met waits =>
    refine ⟨greets, ?_, ?_⟩
    · intro busy
      cases busy
    · intro b calling
      cases calling
  | @subscribed b read late result wire r w out call met done moved =>
    refine ⟨greets, ?_, ?_⟩
    · intro _ mayRead
      cases StreamWorker.step_moves moved with
      | subscribeReturned here =>
        cases r with
        | error e => exact mayRead.elim
        | ok subscription =>
          exact (h.greets.greeting b call).past h.greets.valid met done
    · intro b' calling
      cases calling
  | @reading b b' read late result wire call met waits =>
    obtain ⟨began, c, consumed⟩ := h.reading b call
    rw [← Wire.read_frames met] at began
    refine ⟨greets, ?_, ?_⟩
    · intro busy
      cases busy
    · intro next calling
      cases calling
      rcases consumed.turn met with ⟨b₁, c', turned, consumed'⟩ | ⟨r, c', turned, _⟩
      · obtain rfl := Sum.inl.inj (turned.symm.trans waits)
        exact ⟨began, c', consumed'⟩
      · cases turned.symm.trans waits
  | @read b read late result wire r w out call met done moved =>
    obtain ⟨began, c, consumed⟩ := h.reading b call
    rw [← Wire.read_frames met] at began
    refine ⟨greets, ?_, ?_⟩
    · intro _ _
      rcases consumed.turn met with ⟨b', c', turned, _⟩ | ⟨r', c', _, _, place, _⟩
      · cases turned.symm.trans done
      · change Past wire.frames wire.position
        rw [place]
        exact began.mono (Nat.le_add_right _ _)
    · intro b' calling
      cases calling
  | wrote opened fits => exact h.wire greets (.inr ⟨_, rfl⟩) rfl
  | arrived count => exact h.wire greets (.inl rfl) rfl
  | closed count opened => exact h.wire greets (.inl rfl) rfl

end Steps

section Messages

variable {client : DaemonClient} {s s' : HostStream} {a : StreamAction} {o : StreamOutput}
variable {frames : List (List UInt8)} {place : Nat} {messages : List StreamMessage}

/-- Behind the two frames of a handshake there are payloads of stream messages only. -/
def Clear (frames : List (List UInt8)) : Prop :=
  ∀ (k : Nat) payload, 2 ≤ k → frames[k]? = some payload → Unmistakable payload

/-- The other end writes such payloads. -/
def honest (s : HostStream) : StreamAction → HostStream → Prop
  | .write payload, _ => 2 ≤ s.wire.frames.length → Unmistakable payload
  | _, _ => True

instance (s : HostStream) (a : StreamAction) (t : HostStream) : Decidable (honest s a t) :=
  match a with
  | .write _ => inferInstanceAs (Decidable (_ → _))
  | .worker _ | .connect | .startRead | .turn _ _ | .arrive _ | .close _ => .isTrue trivial

theorem Clear.write {payload : List UInt8} (h : Clear frames)
    (clear : 2 ≤ frames.length → Unmistakable payload) : Clear (frames ++ [payload]) := by
  intro k payload' behind here
  rw [List.getElem?_append] at here
  split_ifs at here with old
  · exact h k payload' behind here
  · obtain ⟨_, same⟩ := List.getElem?_eq_some_iff.mp here
    have only : k - frames.length = 0 := by
      have inside := (List.getElem?_eq_some_iff.mp here).1
      simpa using inside
    simp only [only, List.getElem_cons_zero] at same
    rw [← same]
    exact clear (by omega)

theorem Clear.step (h : Clear s.wire.frames) (ok : honest s a s')
    (step : s.step client a = some (s', o)) : Clear s'.wire.frames := by
  cases HostStream.step_moves step with
  | worker | began | arrived | closed => exact h
  | connected =>
    intro k payload _ here
    cases here
  | subscribing _ met | subscribed _ met | reading _ met | read _ met =>
    rw [Wire.read_frames met]
    exact h
  | wrote opened fits => exact h.write ok

/-- What a read returns is the message of one frame, at whose start it began. -/
theorem Reader.read_frame (h : Reader client s) (clear : Clear s.wire.frames)
    (reads : client.messages.ReadsObjects) (step : s.step client a = some (s', o))
    {message : StreamMessage} (returned : o.returned = some (.readReturns (.ok message))) :
    ∃ k payload, 2 ≤ k ∧ s.wire.frames[k]? = some payload ∧
      s.started = Wire.boundary s.wire.frames k ∧
      decodeStreamMessageFrame client.messages (frameOf payload) = .ok message ∧
      s.call.isSome ∧ s'.call = none ∧ s'.wire.frames = s.wire.frames ∧
      s'.wire.position = Wire.boundary s.wire.frames (k + 1) := by
  cases HostStream.step_moves step with
  | @read b read late result wire r w out call met done moved =>
    cases returned
    obtain ⟨began, c, consumed⟩ := h.reading b call
    have frames := Wire.read_frames met
    rcases consumed.turn met with ⟨b', c', turned, _⟩ | ⟨r, c', turned, bytes, place, decodes⟩
    · cases turned.symm.trans done
    · obtain rfl := Sum.inr.inj (turned.symm.trans done)
      have decoded := decodes message rfl
      obtain ⟨framed, _⟩ := decodeStreamMessageFrame_ok.mp decoded
      obtain ⟨long, declared, small, parsed⟩ := decodeFrame_ok framed
      rw [frames] at bytes
      obtain ⟨k, payload, behind, here, start, rfl⟩ := read_aligned h.greets.valid.fits clear
        began.behind ⟨long, declared, small⟩ bytes reads parsed
      refine ⟨k, payload, behind, here, start, decoded, ?_, rfl, frames, ?_⟩
      · rw [call]
        rfl
      · change wire.position = _
        rw [place, Wire.boundary_succ here, start]
  | subscribed => cases returned
  | worker | connected | began | subscribing | reading | wrote | arrived | closed => cases returned

/-- The message of a payload, if it is one. -/
def messageOf (client : DaemonClient) (payload : List UInt8) : Option StreamMessage :=
  (decodeStreamMessageFrame client.messages (frameOf payload)).toOption

/-- The messages written behind the snapshot. -/
def sentBehind (client : DaemonClient) (frames : List (List UInt8)) : List StreamMessage :=
  (frames.drop 2).filterMap (messageOf client)

theorem sentBehind_sublist {frames' : List (List UInt8)} (h : frames <+: frames') :
    (sentBehind client frames).Sublist (sentBehind client frames') := by
  obtain ⟨more, rfl⟩ := h
  unfold sentBehind
  rw [List.drop_append, List.filterMap_append]
  exact List.sublist_append_left _ _

/-- No read of a message begins before this place any more. -/
def HostStream.reach (s : HostStream) : Nat :=
  match s.call with
  | some (.reading _) => s.started
  | _ => s.wire.position

/-- The messages are some of those before a place, in their order. -/
def Picked (client : DaemonClient) (frames : List (List UInt8)) (reach : Nat)
    (messages : List StreamMessage) : Prop :=
  ∃ k ≤ frames.length, Wire.boundary frames k ≤ reach ∧
    messages.Sublist (sentBehind client (frames.take k))

theorem Picked.nil : Picked client frames place [] :=
  ⟨0, Nat.zero_le _, Nat.zero_le _, List.nil_sublist _⟩

theorem Picked.write (h : Picked client frames place messages) (payload : List UInt8) :
    Picked client (frames ++ [payload]) place messages := by
  obtain ⟨k, known, before, picked⟩ := h
  refine ⟨k, ?_, ?_, ?_⟩
  · rw [List.length_append]
    omega
  · rw [Wire.boundary_append known]
    exact before
  · rw [List.take_append_of_le_length known]
    exact picked

theorem Picked.mono {later : Nat} (h : Picked client frames place messages) (le : place ≤ later) :
    Picked client frames later messages := by
  obtain ⟨k, known, before, picked⟩ := h
  exact ⟨k, known, Nat.le_trans before le, picked⟩

/-- The message of a frame that begins there. -/
theorem Picked.snoc {k : Nat} {payload : List UInt8} {message : StreamMessage}
    (h : Picked client frames (Wire.boundary frames k) messages) (behind : 2 ≤ k)
    (here : frames[k]? = some payload)
    (decoded : decodeStreamMessageFrame client.messages (frameOf payload) = .ok message) :
    Picked client frames (Wire.boundary frames (k + 1)) (messages ++ [message]) := by
  obtain ⟨j, known, begins, picked⟩ := h
  obtain ⟨inside, _⟩ := List.getElem?_eq_some_iff.mp here
  have order : j ≤ k := by
    by_contra later
    have before := Wire.boundary_mono frames (show k + 1 ≤ j by omega)
    have size := frameOf_length payload
    rw [Wire.boundary_succ here] at before
    omega
  refine ⟨k + 1, inside, Nat.le_refl _, ?_⟩
  have front : (frames.take k).length = k := List.length_take_of_le (Nat.le_of_lt inside)
  have one : messageOf client payload = some message := by
    rw [messageOf, decoded]
    rfl
  have last : sentBehind client (frames.take (k + 1)) =
      sentBehind client (frames.take k) ++ [message] := by
    unfold sentBehind
    rw [List.take_add_one, here, Option.toList_some, List.drop_append_of_le_length (by omega),
      List.filterMap_append, List.filterMap_cons_some one, List.filterMap_nil]
  rw [last]
  exact (picked.trans (sentBehind_sublist (List.take_prefix_take_left order))).append
    (List.Sublist.refl _)

/-- A read does not go back. -/
theorem read_position {wire wire' : Wire} {need : Nat} {read : WireRead} {result : ReadResult}
    (met : wire.read need read = some (result, wire')) : wire.position ≤ wire'.position := by
  cases Wire.read_met met with
  | bytes => exact Nat.le_add_right _ _
  | zero | interrupted | wouldBlock | failed => exact Nat.le_refl _

/-- A step keeps what the reads have picked. -/
theorem Picked.step (h : Picked client s.wire.frames s.reach messages) (reader : Reader client s)
    (clear : Clear s.wire.frames) (reads : client.messages.ReadsObjects)
    (step : s.step client a = some (s', o)) :
    Picked client s'.wire.frames s'.reach (decodedStep messages (a, o)) := by
  have whole := fun message (returned : o.returned = some (.readReturns (.ok message))) =>
    reader.read_frame clear reads step returned
  cases HostStream.step_moves step with
  | worker | closed | arrived => exact h
  | connected => exact .nil
  | wrote => exact h.write _
  | began here free start =>
    change Picked client s.wire.frames s.wire.position messages
    rwa [HostStream.reach, free] at h
  | @subscribing b b' read late result wire call met waits =>
    have on := read_position met
    rw [HostStream.reach, call] at h
    rw [← Wire.read_frames met] at h
    exact h.mono on
  | @subscribed b read late result wire r w out call met done moved =>
    have on := read_position met
    rw [HostStream.reach, call] at h
    rw [← Wire.read_frames met] at h
    exact h.mono on
  | @reading b b' read late result wire call met waits =>
    rw [HostStream.reach, call] at h
    rw [← Wire.read_frames met] at h
    exact h
  | @read b read late result wire r w out call met done moved =>
    have frames := Wire.read_frames met
    rw [HostStream.reach, call] at h
    cases r with
    | ok message =>
      obtain ⟨k, payload, behind, here, start, decoded, _, _, _, place⟩ := whole message rfl
      change wire.position = _ at place
      change Picked client s.wire.frames s.started messages at h
      rw [start] at h
      change Picked client wire.frames wire.position (messages ++ [message])
      rw [place, frames]
      exact h.snoc behind here decoded
    | error e =>
      obtain ⟨_, c, consumed⟩ := reader.reading b call
      change Picked client wire.frames wire.position messages
      rw [frames]
      refine Picked.mono h ?_
      have on := read_position met
      have from_ := consumed.position
      change s.started ≤ wire.position
      omega

theorem run_picked (reads : client.messages.ReadsObjects) {tr : List (StreamAction × StreamOutput)}
    (run : (hostStream client).Run honest .new tr s) :
    Reader client s ∧ Clear s.wire.frames ∧
      Picked client s.wire.frames s.reach (decoded tr) := by
  apply run.history (P := fun tr s => Reader client s ∧ Clear s.wire.frames ∧
    Picked client s.wire.frames s.reach (decoded tr))
  · refine ⟨reader_new, ?_, .nil⟩
    intro k payload _ here
    cases here
  · intro tr t a u o ⟨reader, clear, picked⟩ ok step
    refine ⟨reader.step step, clear.step ok step, ?_⟩
    rw [decoded, List.foldl_append]
    exact picked.step reader clear reads step

/-- However reads time out, and wherever in a frame that leaves the connection: what the reads of a
connection return are messages the daemon has written behind the snapshot, in its order, each read
from its first byte to its last. -/
theorem reads_whole_messages (reads : client.messages.ReadsObjects)
    {tr : List (StreamAction × StreamOutput)} (run : (hostStream client).Run honest .new tr s) :
    (decoded tr).Sublist (sentBehind client s.wire.frames) ∧
      ∀ a s' o message, s.step client a = some (s', o) →
        o.returned = some (.readReturns (.ok message)) →
        ∃ k payload, 2 ≤ k ∧ s.wire.frames[k]? = some payload ∧
          messageOf client payload = some message ∧
          s.started = Wire.boundary s.wire.frames k ∧
          s'.wire.position = Wire.boundary s.wire.frames (k + 1) := by
  obtain ⟨reader, clear, k, known, _, picked⟩ := run_picked reads run
  refine ⟨picked.trans (sentBehind_sublist (List.take_prefix k _)), ?_⟩
  intro a s' o message step returned
  obtain ⟨k, payload, behind, here, start, decoded, _, _, _, place⟩ :=
    reader.read_frame clear reads step returned
  refine ⟨k, payload, behind, here, ?_, start, place⟩
  rw [messageOf, decoded]
  rfl

end Messages

theorem firstClient_readsObjects : firstClient.messages.ReadsObjects := by
  apply ofTexts_readsObjects
  intro text among
  have first : (utf8 text.2).head? = some 0x7b := by
    revert text
    decide +kernel
  obtain ⟨rest, split⟩ := List.head?_eq_some_iff.mp first
  exact ⟨0x7b, rest, split, by decide⟩

/-- A read is cut short, the next one begins inside the length of the event and is refused, and
the event is read from a new connection. -/
def readingAgain : List StreamAction :=
  cuttingFirst ++ [.startRead, .arrive 158, .turn (.bytes 4) 0, .worker .check,
    .worker (.send true)] ++ subscribing ++
    [.startRead, .write (utf8 firstEventText), .arrive 164, .turn (.bytes 4) 0]

theorem reads_whole_messages_again :
    ∃ tr s s' o, (hostStream firstClient).Run honest .new tr s ∧
      s.step firstClient (.turn (.bytes 200) 0) = some (s', o) ∧
      o.returned = some (.readReturns (.ok firstEvent)) ∧
      ∃ k, s.started = Wire.boundary s.wire.frames k := by
  have run := Machine.run_of_exec_isSome (hostStream firstClient) honest .new readingAgain
    (by decide +kernel)
  have enabled : ((((hostStream firstClient).exec honest .new readingAgain).get
      (by decide +kernel)).2.step firstClient (.turn (.bytes 200) 0)).map
      (fun r => r.2.returned) = some (some (.readReturns (.ok firstEvent))) := by decide +kernel
  obtain ⟨⟨s', o⟩, step, message⟩ := Option.map_eq_some_iff.mp enabled
  obtain ⟨k, _, _, _, _, start, _⟩ :=
    (reads_whole_messages firstClient_readsObjects run).2 _ s' o firstEvent step message
  exact ⟨_, _, s', o, run, step, message, k, start⟩

end Kesharon.Host
