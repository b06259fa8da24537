import Mathlib.Order.Basic

namespace Kesharon.Ipc

/-- `std::io::ErrorKind`, as far as it is told apart. -/
inductive ErrorKind where
  | timedOut
  | invalidInput
  | other
  deriving DecidableEq, Repr

structure IoError where
  kind : ErrorKind
  message : String
  deriving DecidableEq, Repr

/-- What a read of a nonblocking stream returns. -/
inductive ReadResult where
  | ok (bytes : List UInt8)
  | interrupted
  | wouldBlock
  | failed (error : IoError)
  deriving DecidableEq, Repr

/-- One pass through a read loop: the read, and the milliseconds from the last look at the
clock (and the sleep after it) to the next one. -/
structure Turn where
  result : ReadResult
  late : Nat
  deriving DecidableEq, Repr

/-- A call of `read_exact_with_timeout`: the length of the buffer that is left, the bytes before
it, and the milliseconds until the deadline. -/
structure ReadExact where
  need : Nat
  filled : List UInt8
  remaining : Nat
  deriving DecidableEq, Repr

def deadlineExceeded : IoError := ⟨.timedOut,"local IPC operation exceeded its deadline"⟩

namespace ReadExact

/-- `wait_for_io`, which sleeps for a millisecond. -/
def waitForIo (r : ReadExact) (late : Nat) : ReadExact ⊕ Except IoError (List UInt8) :=
  if r.remaining ≤ late then .inr (.error deadlineExceeded)
  else .inl { r with remaining := r.remaining - late - 1 }

/-- Bytes go to the front of the buffer that is left. -/
def fill (r : ReadExact) (bytes : List UInt8) : ReadExact ⊕ Except IoError (List UInt8) :=
  if r.need ≤ bytes.length then .inr (.ok (r.filled ++ bytes))
  else .inl { r with need := r.need - bytes.length, filled := r.filled ++ bytes }

/-- A read stores at most as many bytes as the buffer has room for. -/
def turn (r : ReadExact) (t : Turn) : ReadExact ⊕ Except IoError (List UInt8) :=
  match t.result with
  | .ok [] => r.waitForIo t.late
  | .ok (byte :: bytes) => r.fill ((byte :: bytes).take r.need)
  | .interrupted => .inl r
  | .wouldBlock => r.waitForIo t.late
  | .failed error => .inr (.error error)

end ReadExact

/-- A program that reads from one stream with `read_exact_with_timeout`. -/
inductive Reads (α : Type) where
  | done (a : α)
  | readExact (size timeout : Nat) (next : Except IoError (List UInt8) → Reads α)

/-- A program inside a read, with a buffer that is not empty. -/
structure Blocked (α : Type) where
  call : ReadExact
  next : Except IoError (List UInt8) → Reads α

/-- Up to the first read that needs a byte. -/
def Reads.start {α : Type} : Reads α → Blocked α ⊕ α
  | .done a => .inr a
  | .readExact size timeout next =>
    if size = 0 then (next (.ok [])).start else .inl ⟨⟨size,[],timeout⟩,next⟩

namespace Blocked

variable {α : Type}

def turn (b : Blocked α) (t : Turn) : Blocked α ⊕ α :=
  match b.call.turn t with
  | .inl call => .inl { b with call := call }
  | .inr result => (b.next result).start

/-- The turns of a schedule, until the program is done. -/
def turns : Blocked α ⊕ α → List Turn → Blocked α ⊕ α
  | .inr a, _ => .inr a
  | .inl b, [] => .inl b
  | .inl b, t :: ts => turns (b.turn t) ts

end Blocked

/-- The program on a schedule of reads; it is still blocked when the schedule ends early. -/
def Reads.run {α : Type} (p : Reads α) (ts : List Turn) : Blocked α ⊕ α :=
  Blocked.turns p.start ts

end Kesharon.Ipc
