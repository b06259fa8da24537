import Mathlib.Data.List.Basic

namespace Kesharon.Framework

/-- A bounded first-in first-out channel between one sender and one receiver. -/
structure SyncChannel (μ : Type*) where
  capacity : Nat
  buffer : List μ
  senderAlive : Bool
  receiverAlive : Bool

inductive TrySendError where
  | full
  | disconnected
  deriving DecidableEq, Repr

/-- What a receiver that does not block obtains. -/
inductive Received (μ : Type*) where
  | message (m : μ)
  | disconnected
  deriving DecidableEq, Repr

namespace SyncChannel

variable {μ : Type*}

def new (capacity : Nat) : SyncChannel μ := ⟨capacity, [], true, true⟩

/-- A send never blocks: it fails when the receiver is gone or the buffer is full. -/
def trySend (c : SyncChannel μ) (m : μ) : Except TrySendError (SyncChannel μ) :=
  if c.receiverAlive = false then .error .disconnected
  else if c.capacity ≤ c.buffer.length then .error .full
  else .ok { c with buffer := c.buffer ++ [m] }

/-- A receive takes the oldest message; without one it blocks (`none`) as long as the
sender is alive. -/
def recv (c : SyncChannel μ) : Option (Received μ × SyncChannel μ) :=
  match c.buffer with
  | m :: rest => some (.message m, { c with buffer := rest })
  | [] => if c.senderAlive then none else some (.disconnected, c)

def dropSender (c : SyncChannel μ) : SyncChannel μ := { c with senderAlive := false }

def dropReceiver (c : SyncChannel μ) : SyncChannel μ := { c with receiverAlive := false }

theorem trySend_ok {c c' : SyncChannel μ} {m : μ} (h : c.trySend m = .ok c') :
    c.receiverAlive = true ∧ c.buffer.length < c.capacity ∧
      c' = { c with buffer := c.buffer ++ [m] } := by
  unfold trySend at h
  split_ifs at h with hr hf
  · exact ⟨by simpa using hr, by omega, (Except.ok.inj h).symm⟩

theorem trySend_error {c : SyncChannel μ} {m : μ} {e : TrySendError}
    (h : c.trySend m = .error e) : c.receiverAlive = false ∨ c.capacity ≤ c.buffer.length := by
  unfold trySend at h
  split_ifs at h with hr hf
  · exact .inl hr
  · exact .inr hf

/-- A receive returns the head of the buffer, or the disconnect behind the last message. -/
theorem recv_some {c c' : SyncChannel μ} {r : Received μ} (h : c.recv = some (r, c')) :
    (∃ m, r = .message m ∧ c.buffer = m :: c'.buffer ∧ c' = { c with buffer := c'.buffer }) ∨
      (r = .disconnected ∧ c.buffer = [] ∧ c.senderAlive = false ∧ c' = c) := by
  unfold recv at h
  cases hb : c.buffer with
  | cons m rest =>
    rw [hb] at h
    obtain ⟨rfl, rfl⟩ : .message m = r ∧ { c with buffer := rest } = c' := by simpa using h
    exact .inl ⟨m, rfl, rfl, rfl⟩
  | nil =>
    rw [hb] at h
    cases hs : c.senderAlive with
    | true => simp [hs] at h
    | false =>
      obtain ⟨rfl, rfl⟩ : .disconnected = r ∧ c = c' := by simpa [hs] using h
      exact .inr ⟨rfl, rfl, rfl, rfl⟩

/-- The oldest message, or the disconnect behind the last one. -/
def next (c : SyncChannel μ) : Received μ :=
  match c.buffer with
  | m :: _ => .message m
  | [] => .disconnected

/-- A receiver whose sender is gone never blocks. -/
theorem recv_of_dropped {c : SyncChannel μ} (h : c.senderAlive = false) :
    ∃ c', c.recv = some (c.next, c') := by
  unfold recv next
  cases c.buffer with
  | nil => exact ⟨c, by simp [h]⟩
  | cons m rest => exact ⟨_, rfl⟩

end SyncChannel

end Kesharon.Framework
