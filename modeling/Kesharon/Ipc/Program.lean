import Kesharon.Ipc.Reads

namespace Kesharon.Ipc

/-- What a write to a nonblocking stream returns. -/
inductive WriteResult where
  | ok (written : Nat)
  | interrupted
  | wouldBlock
  | failed (error : IoError)
  deriving DecidableEq, Repr

/-- A call of `write_all_with_timeout`: the buffer that is left, and the milliseconds until the
deadline. -/
structure WriteAll where
  left : List UInt8
  remaining : Nat
  deriving DecidableEq, Repr

namespace WriteAll

def waitForIo (w : WriteAll) (late : Nat) : WriteAll ⊕ Except IoError Unit :=
  if w.remaining ≤ late then .inr (.error deadlineExceeded)
  else .inl { w with remaining := w.remaining - late - 1 }

/-- Bytes are taken from the front of the buffer that is left. -/
def advance (w : WriteAll) (written : Nat) : WriteAll ⊕ Except IoError Unit :=
  if w.left.length ≤ written then .inr (.ok ())
  else .inl { w with left := w.left.drop written }

/-- One pass through the loop: the write, and the milliseconds to the look at the clock. -/
def turn (w : WriteAll) (result : WriteResult) (late : Nat) : WriteAll ⊕ Except IoError Unit :=
  match result with
  | .ok 0 => w.waitForIo late
  | .ok (written + 1) => w.advance (written + 1)
  | .interrupted => .inl w
  | .wouldBlock => w.waitForIo late
  | .failed error => .inr (.error error)

/-- A write that is not interrupted ends the call, or leaves a shorter buffer or less time. -/
theorem turn_decreases (w : WriteAll) {result : WriteResult} (late : Nat)
    (h : result ≠ .interrupted) :
    (∃ r, w.turn result late = .inr r) ∨
      ∃ w', w.turn result late = .inl w' ∧
        w'.left.length + w'.remaining < w.left.length + w.remaining := by
  have waits : (∃ r, w.waitForIo late = .inr r) ∨
      ∃ w', w.waitForIo late = .inl w' ∧
        w'.left.length + w'.remaining < w.left.length + w.remaining := by
    unfold waitForIo
    split_ifs with expired
    · exact .inl ⟨_, rfl⟩
    · exact .inr ⟨_, rfl, by dsimp only; omega⟩
  cases result with
  | interrupted => exact absurd rfl h
  | wouldBlock => exact waits
  | failed error => exact .inl ⟨_, rfl⟩
  | ok written =>
    cases written with
    | zero => exact waits
    | succ written =>
      unfold turn advance
      dsimp only
      split_ifs with all
      · exact .inl ⟨_, rfl⟩
      · refine .inr ⟨_, rfl, ?_⟩
        dsimp only
        rw [List.length_drop]
        omega

end WriteAll

/-- A program that reads from a stream with `read_exact_with_timeout` and writes to it with
`write_all_with_timeout`. -/
inductive Program (α : Type) where
  | done (a : α)
  | readExact (size timeout : Nat) (next : Except IoError (List UInt8) → Program α)
  | writeAll (bytes : List UInt8) (timeout : Nat) (next : Except IoError Unit → Program α)

/-- A program inside a call, with a buffer that is not empty. -/
inductive Suspended (α : Type) where
  | reading (call : ReadExact) (next : Except IoError (List UInt8) → Program α)
  | writing (call : WriteAll) (next : Except IoError Unit → Program α)

/-- What a program makes of its input: its result, the input that it leaves, and its output. -/
structure Outcome (α : Type) where
  result : α
  unread : List UInt8
  written : List UInt8

/-- The same, behind some more output. -/
def Outcome.behind {α : Type} (bytes : List UInt8) (o : Outcome α) : Outcome α :=
  { o with written := bytes ++ o.written }

variable {α β : Type}

theorem Outcome.behind_append (xs ys : List UInt8) (o : Outcome α) :
    o.behind (xs ++ ys) = (o.behind ys).behind xs := by
  unfold behind
  rw [List.append_assoc]

namespace Program

/-- Up to the first call that has something to do. -/
def start : Program α → Suspended α ⊕ α
  | .done a => .inr a
  | .readExact size timeout next =>
    if size = 0 then (next (.ok [])).start else .inl (.reading ⟨size,[],timeout⟩ next)
  | .writeAll bytes timeout next =>
    if bytes = [] then (next (.ok ())).start else .inl (.writing ⟨bytes,timeout⟩ next)

/-- Apply a function to what a program returns. -/
def map (f : α → β) : Program α → Program β
  | .done a => .done (f a)
  | .readExact size timeout next => .readExact size timeout fun r => (next r).map f
  | .writeAll bytes timeout next => .writeAll bytes timeout fun r => (next r).map f

/-- What a program makes of an input, if that is enough and no call fails. -/
def outcome : Program α → List UInt8 → Option (Outcome α)
  | .done a, input => some ⟨a,input,[]⟩
  | .readExact size _ next, input =>
    if size ≤ input.length then (next (.ok (input.take size))).outcome (input.drop size) else none
  | .writeAll bytes _ next, input => ((next (.ok ())).outcome input).map (Outcome.behind bytes)

/-- A program leaves the end of its input. -/
theorem outcome_suffix {p : Program α} {input : List UInt8} {o : Outcome α}
    (h : p.outcome input = some o) : o.unread <:+ input := by
  induction p generalizing input o with
  | done a =>
    obtain rfl := Option.some.inj h
    exact List.suffix_refl _
  | readExact size timeout next ih =>
    simp only [outcome] at h
    split_ifs at h
    exact (ih _ h).trans (List.drop_suffix _ _)
  | writeAll bytes timeout next ih =>
    obtain ⟨o', h', rfl⟩ := Option.map_eq_some_iff.mp h
    exact ih _ (o := o') h'

end Program

namespace Suspended

/-- What a program inside a call, or behind its last one, makes of the rest of its input. -/
def outcome : Suspended α ⊕ α → List UInt8 → Option (Outcome α)
  | .inr a, input => some ⟨a,input,[]⟩
  | .inl (.reading call next), input =>
    if call.need ≤ input.length then
      (next (.ok (call.filled ++ input.take call.need))).outcome (input.drop call.need)
    else none
  | .inl (.writing call next), input =>
    ((next (.ok ())).outcome input).map (Outcome.behind call.left)

theorem outcome_reading (call : ReadExact) (next : Except IoError (List UInt8) → Program α)
    (input : List UInt8) :
    outcome (.inl (.reading call next)) input =
      if call.need ≤ input.length then
        (next (.ok (call.filled ++ input.take call.need))).outcome (input.drop call.need)
      else none := rfl

theorem outcome_start (p : Program α) (input : List UInt8) :
    outcome p.start input = p.outcome input := by
  induction p generalizing input with
  | done a => rfl
  | readExact size timeout next ih =>
    unfold Program.start Program.outcome
    by_cases empty : size = 0
    · subst size
      rw [if_pos rfl, if_pos (Nat.zero_le _)]
      exact ih _ _
    · rw [if_neg empty]
      rfl
  | writeAll bytes timeout next ih =>
    unfold Program.start Program.outcome
    by_cases empty : bytes = []
    · subst bytes
      rw [if_pos rfl, ih]
      cases (next (.ok ())).outcome input <;> rfl
    · rw [if_neg empty]
      rfl

theorem outcome_suffix {s : Suspended α ⊕ α} {input : List UInt8} {o : Outcome α}
    (h : outcome s input = some o) : o.unread <:+ input := by
  cases s with
  | inr a =>
    obtain rfl := Option.some.inj h
    exact List.suffix_refl _
  | inl b =>
    cases b with
    | reading call next =>
      simp only [outcome] at h
      split_ifs at h
      exact (Program.outcome_suffix h).trans (List.drop_suffix _ _)
    | writing call next =>
      obtain ⟨o', h', rfl⟩ := Option.map_eq_some_iff.mp h
      exact Program.outcome_suffix (o := o') h'

end Suspended

namespace Reads

/-- Go on with the result of the reads. -/
def andThen (k : α → Program β) : Reads α → Program β
  | .done a => k a
  | .readExact size timeout next => .readExact size timeout fun r => (next r).andThen k

/-- What the reads make of an input, and what they leave of it. -/
def consume : Reads α → List UInt8 → Option (α × List UInt8)
  | .done a, input => some (a, input)
  | .readExact size _ next, input =>
    if size ≤ input.length then (next (.ok (input.take size))).consume (input.drop size) else none

theorem outcome_andThen (k : α → Program β) (p : Reads α) (input : List UInt8) :
    (p.andThen k).outcome input = (p.consume input).bind fun r => (k r.1).outcome r.2 := by
  induction p generalizing input with
  | done a => rfl
  | readExact size timeout next ih =>
    simp only [andThen, Program.outcome, consume]
    split_ifs
    · exact ih _ _
    · rfl

theorem consume_map (f : α → β) (p : Reads α) (input : List UInt8) :
    (p.map f).consume input = (p.consume input).map fun r => (f r.1, r.2) := by
  induction p generalizing input with
  | done a => rfl
  | readExact size timeout next ih =>
    simp only [map, consume]
    split_ifs
    · exact ih _ _
    · rfl

/-- A call gets the bytes that it asks for. -/
theorem consume_readExact {size timeout : Nat} {next : Except IoError (List UInt8) → Reads α}
    {bytes : List UInt8} (all : bytes.length = size) (rest : List UInt8) :
    (Reads.readExact size timeout next).consume (bytes ++ rest) = (next (.ok bytes)).consume rest := by
  simp only [consume]
  rw [if_pos (by rw [List.length_append]; omega), List.take_left' all, List.drop_left' all]

end Reads

end Kesharon.Ipc
