import Kesharon.Ipc.Program
import Kesharon.Ipc.Wire

namespace Kesharon.Ipc

variable {α β : Type}

namespace Reads

/-- What a program returns once it has all bytes of an input that it asks for. -/
def feed : Reads α → List UInt8 → Option α
  | .done a, _ => some a
  | .readExact size _ next, input =>
    if size ≤ input.length then (next (.ok (input.take size))).feed (input.drop size) else none

/-- The program returns at once, in the same way, when a read fails. -/
def FailsWith (report : IoError → α) : Reads α → Prop
  | .done _ => True
  | .readExact _ _ next =>
    (∀ e, next (.error e) = .done (report e)) ∧ ∀ bytes, (next (.ok bytes)).FailsWith report

theorem feed_eq_consume (p : Reads α) (input : List UInt8) :
    p.feed input = (p.consume input).map Prod.fst := by
  induction p generalizing input with
  | done a => rfl
  | readExact size timeout next ih =>
    simp only [feed, consume]
    split_ifs
    · exact ih _ _
    · rfl

theorem feed_map (f : α → β) (p : Reads α) (input : List UInt8) :
    (p.map f).feed input = (p.feed input).map f := by
  rw [feed_eq_consume, feed_eq_consume, consume_map, Option.map_map, Option.map_map]
  rfl

theorem failsWith_map {report : IoError → α} (f : α → β) {p : Reads α} (h : p.FailsWith report) :
    (p.map f).FailsWith (f ∘ report) := by
  induction p with
  | done a => trivial
  | readExact size timeout next ih =>
    refine ⟨fun e => ?_, fun bytes => ih _ (h.2 bytes)⟩
    dsimp only
    rw [h.1 e]
    rfl

end Reads

/-- The same, from inside a read. -/
def Blocked.feed (b : Blocked α) (input : List UInt8) : Option α :=
  if b.call.need ≤ input.length then
    (b.next (.ok (b.call.filled ++ input.take b.call.need))).feed (input.drop b.call.need)
  else none

/-- A program inside a read, with room in its buffer, that will make this of its input, or report
the error of a read. -/
structure Blocked.Expects (report : IoError → α) (input : List UInt8) (whole : Option α)
    (b : Blocked α) : Prop where
  feeds : b.feed input = whole
  fails : ∀ e, b.next (.error e) = .done (report e)
  goes : ∀ bytes, (b.next (.ok bytes)).FailsWith report
  room : 0 < b.call.need

/-- The program has returned what it makes of its input, or goes on inside a read. -/
def Awaits (report : IoError → α) (input : List UInt8) (whole : Option α) :
    Blocked α ⊕ α → Prop
  | .inr a => whole = some a
  | .inl b => b.Expects report input whole

theorem Reads.start_expects {report : IoError → α} {p : Reads α} (h : p.FailsWith report)
    (input : List UInt8) : Awaits report input (p.feed input) p.start := by
  induction p generalizing input with
  | done a => rfl
  | readExact size timeout next ih =>
    unfold start
    by_cases empty : size = 0
    · subst size
      have whole : (Reads.readExact 0 timeout next).feed input = (next (.ok [])).feed input := by
        simp [feed]
      rw [if_pos rfl, whole]
      exact ih _ (h.2 []) input
    · rw [if_neg empty]
      exact ⟨rfl, h.1, h.2, Nat.pos_of_ne_zero empty⟩

/-- What a read of a stream returns, and the bytes that are left in it. -/
def readStream (unread : List UInt8) (need : Nat) : WireRead → Option (ReadResult × List UInt8)
  | .bytes count =>
    let chunk := (unread.take need).take count
    if chunk = [] then none else some (.ok chunk, unread.drop chunk.length)
  | .zero => if unread = [] then some (.ok [], unread) else none
  | .interrupted => some (.interrupted, unread)
  | .wouldBlock => some (.wouldBlock, unread)
  | .failed error => some (.failed error, unread)

/-- A read that stores no byte leaves the program where it is, or fails. -/
theorem Blocked.turn_expects_idle {report : IoError → α} {b : Blocked α} {input : List UInt8}
    {whole : Option α} (h : b.Expects report input whole) {t : Turn}
    (none : ∀ chunk, t.result = .ok chunk → chunk = []) :
    Awaits report input whole (b.turn t) ∨ ∃ e, b.turn t = .inr (report e) := by
  unfold turn
  rcases b.call.turn_idle none with ⟨remaining, idle⟩ | ⟨e, failed⟩
  · rw [idle]
    exact .inl ⟨h.feeds, h.fails, h.goes, h.room⟩
  · rw [failed]
    refine .inr ⟨e, ?_⟩
    dsimp only
    rw [h.fails e]
    rfl

/-- A read that stores bytes of the input brings the program on. -/
theorem Blocked.turn_expects_bytes {report : IoError → α} {b : Blocked α} {input : List UInt8}
    {whole : Option α} (h : b.Expects report input whole) {t : Turn}
    {chunk : List UInt8} (brings : t.result = .ok chunk) (some : chunk ≠ [])
    (front : chunk <+: input.take b.call.need) :
    Awaits report (input.drop chunk.length) whole (b.turn t) := by
  obtain ⟨feeds, fails, goes, room⟩ := h
  have short : chunk.length ≤ b.call.need := by
    have le := front.length_le
    rw [List.length_take] at le
    omega
  have prefixed : chunk = input.take chunk.length := by
    obtain ⟨rest, cut⟩ := front
    have first := congrArg (List.take chunk.length) cut
    rw [List.take_left' rfl, List.take_take, Nat.min_eq_left short] at first
    exact first
  have moved : b.turn t = (b.call.fill chunk).elim (fun call => .inl { b with call := call })
      fun result => (b.next result).start := by
    unfold turn ReadExact.turn
    rw [brings]
    cases chunk with
    | nil => exact absurd rfl some
    | cons byte bytes =>
      have all : (byte :: bytes).take b.call.need = byte :: bytes := List.take_of_length_le short
      cases filled : b.call.fill (byte :: bytes) with
      | inl call => simp only [all, filled, Sum.elim_inl]
      | inr result => simp only [all, filled, Sum.elim_inr]
  rw [moved]
  unfold ReadExact.fill
  by_cases full : b.call.need ≤ chunk.length
  · rw [if_pos full]
    have same : chunk.length = b.call.need := by omega
    have enough : b.call.need ≤ input.length := by
      have le := congrArg List.length prefixed
      rw [List.length_take] at le
      omega
    have whole' : (b.next (.ok (b.call.filled ++ chunk))).feed (input.drop chunk.length) =
        whole := by
      rw [← feeds, feed, if_pos enough, ← same, ← prefixed]
    have started := Reads.start_expects (goes (b.call.filled ++ chunk)) (input.drop chunk.length)
    rw [whole'] at started
    exact started
  · rw [if_neg full]
    refine ⟨?_, fails, goes, by dsimp only; omega⟩
    rw [← feeds]
    unfold feed
    dsimp only
    rw [List.length_drop]
    have le := congrArg List.length prefixed
    rw [List.length_take] at le
    by_cases enough : b.call.need ≤ input.length
    · rw [if_pos (by omega), if_pos enough, List.drop_drop]
      have rest : b.call.filled ++ input.take b.call.need =
          b.call.filled ++ chunk ++ (input.drop chunk.length).take (b.call.need - chunk.length) := by
        have cut : b.call.need = chunk.length + (b.call.need - chunk.length) := by omega
        rw [List.append_assoc, cut, List.take_add, ← prefixed, Nat.add_sub_cancel_left]
      rw [rest, Nat.add_sub_of_le short]
    · rw [if_neg (by omega), if_neg enough]

/-- One read of a program over a stream brings it on, or ends it with the error it reports. -/
theorem Blocked.turn_expects {report : IoError → α} {b : Blocked α} {unread rest : List UInt8}
    {whole : Option α} (h : b.Expects report unread whole) {r : WireRead}
    {result : ReadResult} (reads : readStream unread b.call.need r = some (result, rest))
    (late : Nat) :
    Awaits report rest whole (b.turn ⟨result,late⟩) ∨
      ∃ e, b.turn ⟨result,late⟩ = .inr (report e) := by
  cases r with
  | bytes count =>
    simp only [readStream] at reads
    by_cases empty : (unread.take b.call.need).take count = []
    · simp [empty] at reads
    · rw [if_neg empty] at reads
      obtain ⟨rfl, rfl⟩ := Prod.mk.inj (Option.some.inj reads)
      exact .inl (turn_expects_bytes h rfl empty (List.take_prefix _ _))
  | zero =>
    simp only [readStream] at reads
    split_ifs at reads
    obtain ⟨rfl, rfl⟩ := Prod.mk.inj (Option.some.inj reads)
    exact turn_expects_idle h fun chunk he => (ReadResult.ok.inj he).symm
  | interrupted =>
    obtain ⟨rfl, rfl⟩ := Prod.mk.inj (Option.some.inj reads)
    exact turn_expects_idle h nofun
  | wouldBlock =>
    obtain ⟨rfl, rfl⟩ := Prod.mk.inj (Option.some.inj reads)
    exact turn_expects_idle h nofun
  | failed error =>
    obtain ⟨rfl, rfl⟩ := Prod.mk.inj (Option.some.inj reads)
    exact turn_expects_idle h nofun

end Kesharon.Ipc
