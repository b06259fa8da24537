import Kesharon.Ipc.Stream
import Mathlib.Tactic.SplitIfs

namespace Kesharon.Ipc

variable {α β : Type}

theorem Reads.start_readExact (size timeout : Nat) (next : Except IoError (List UInt8) → Reads α) :
    (Reads.readExact size timeout next).start =
      if size = 0 then (next (.ok [])).start else .inl ⟨⟨size,[],timeout⟩,next⟩ := rfl

@[simp] theorem Blocked.turns_done (a : α) (ts : List Turn) :
    Blocked.turns (.inr a) ts = .inr a := by
  cases ts <;> rfl

theorem Blocked.turns_append (s : Blocked α ⊕ α) (xs ys : List Turn) :
    Blocked.turns s (xs ++ ys) = Blocked.turns (Blocked.turns s xs) ys := by
  induction xs generalizing s with
  | nil => cases s <;> rfl
  | cons t ts ih =>
    cases s with
    | inr a => simp
    | inl b => exact ih (b.turn t)

theorem Reads.run_nil (p : Reads α) : p.run [] = p.start := by
  unfold run
  cases p.start <;> rfl

theorem Reads.run_append (p : Reads α) (xs ys : List Turn) :
    p.run (xs ++ ys) = Blocked.turns (p.run xs) ys :=
  Blocked.turns_append p.start xs ys

/-- A program that is done stays done. -/
theorem Reads.run_append_of_done {p : Reads α} {xs : List Turn} {a : α} (h : p.run xs = .inr a)
    (ys : List Turn) : p.run (xs ++ ys) = .inr a := by
  rw [run_append, h, Blocked.turns_done]

/-- Two results of one schedule agree. -/
theorem Reads.run_unique {p : Reads α} {schedule : Nat → Turn} {n m : Nat} {a b : α}
    (hn : p.run ((List.range n).map schedule) = .inr a)
    (hm : p.run ((List.range m).map schedule) = .inr b) : a = b := by
  have extend (k l : Nat) : (List.range (k + l)).map schedule =
      (List.range k).map schedule ++ ((List.range l).map (k + ·)).map schedule := by
    rw [List.range_add, List.map_append]
  have longer := Reads.run_append_of_done hn (((List.range m).map (n + ·)).map schedule)
  have longer' := Reads.run_append_of_done hm (((List.range n).map (m + ·)).map schedule)
  rw [← extend] at longer longer'
  rw [Nat.add_comm m n, longer] at longer'
  exact Sum.inr.inj longer'

/-- Apply a function to what a program returns. -/
def Reads.map (f : α → β) : Reads α → Reads β
  | .done a => .done (f a)
  | .readExact size timeout next => .readExact size timeout fun r => (next r).map f

def Blocked.map (f : α → β) (b : Blocked α) : Blocked β := ⟨b.call,fun r => (b.next r).map f⟩

theorem Reads.start_map (f : α → β) (p : Reads α) :
    (p.map f).start = p.start.map (Blocked.map f) f := by
  induction p with
  | done a => rfl
  | readExact size timeout next ih =>
    simp only [map, start]
    split_ifs
    · exact ih _
    · rfl

theorem Blocked.turns_map (f : α → β) (s : Blocked α ⊕ α) (ts : List Turn) :
    Blocked.turns (s.map (Blocked.map f) f) ts = (Blocked.turns s ts).map (Blocked.map f) f := by
  induction ts generalizing s with
  | nil => cases s <;> rfl
  | cons t ts ih =>
    cases s with
    | inr a => rfl
    | inl b =>
      have step : (b.map f).turn t = (b.turn t).map (Blocked.map f) f := by
        unfold Blocked.turn Blocked.map
        dsimp only
        cases b.call.turn t with
        | inl call => rfl
        | inr result => exact Reads.start_map f _
      change Blocked.turns ((b.map f).turn t) ts = _
      rw [step, ih]
      rfl

theorem Reads.run_map (f : α → β) (p : Reads α) (ts : List Turn) :
    (p.map f).run ts = (p.run ts).map (Blocked.map f) f := by
  unfold run
  rw [start_map, Blocked.turns_map]

/-- A read that is not interrupted ends the call, or leaves less room or less time. -/
theorem ReadExact.turn_decreases (r : ReadExact) (t : Turn) (h : t.result ≠ .interrupted) :
    (∃ result, r.turn t = .inr result) ∨
      ∃ r', r.turn t = .inl r' ∧ r'.need + r'.remaining < r.need + r.remaining := by
  have waits : (∃ result, r.waitForIo t.late = .inr result) ∨
      ∃ r', r.waitForIo t.late = .inl r' ∧ r'.need + r'.remaining < r.need + r.remaining := by
    unfold waitForIo
    split_ifs with late
    · exact .inl ⟨_, rfl⟩
    · exact .inr ⟨_, rfl, by dsimp only; omega⟩
  unfold turn
  cases hr : t.result with
  | interrupted => exact absurd hr h
  | wouldBlock => exact waits
  | failed error => exact .inl ⟨_, rfl⟩
  | ok bytes =>
    cases bytes with
    | nil => exact waits
    | cons byte bytes =>
      unfold fill
      dsimp only
      split_ifs with full
      · exact .inl ⟨_, rfl⟩
      · refine .inr ⟨_, rfl, ?_⟩
        have some : 0 < ((byte :: bytes).take r.need).length := by
          rw [List.length_take, List.length_cons] at full ⊢
          omega
        dsimp only
        omega

/-- A call that goes on has no more time than before. -/
theorem ReadExact.turn_remaining_le {r r' : ReadExact} {t : Turn} (h : r.turn t = .inl r') :
    r'.remaining ≤ r.remaining := by
  have waits (h : r.waitForIo t.late = .inl r') : r'.remaining ≤ r.remaining := by
    unfold waitForIo at h
    split_ifs at h
    obtain rfl := Sum.inl.inj h
    dsimp only
    omega
  unfold turn at h
  split at h
  · exact waits h
  · unfold fill at h
    split_ifs at h
    obtain rfl := Sum.inl.inj h
    exact Nat.le_refl _
  · obtain rfl := Sum.inl.inj h
    exact Nat.le_refl _
  · exact waits h
  · cases h

/-- A read that brings no bytes leaves the buffer as it is, or fails. -/
theorem ReadExact.turn_idle (r : ReadExact) {t : Turn}
    (none : ∀ chunk, t.result = .ok chunk → chunk = []) :
    (∃ remaining, r.turn t = .inl { r with remaining := remaining }) ∨
      ∃ e, r.turn t = .inr (.error e) := by
  have waits : (∃ remaining, r.waitForIo t.late = .inl { r with remaining := remaining }) ∨
      ∃ e, r.waitForIo t.late = .inr (.error e) := by
    unfold waitForIo
    split_ifs
    · exact .inr ⟨_, rfl⟩
    · exact .inl ⟨_, rfl⟩
  unfold turn
  cases hr : t.result with
  | interrupted => exact .inl ⟨r.remaining, rfl⟩
  | wouldBlock => exact waits
  | failed error => exact .inr ⟨error, rfl⟩
  | ok chunk =>
    obtain rfl := none chunk hr
    exact waits

/-- A call goes on with its buffer, fails, or has filled the buffer. -/
theorem ReadExact.turn_sized {r : ReadExact} {size : Nat}
    (all : r.filled.length + r.need = size) (t : Turn) :
    (∃ r', r.turn t = .inl r' ∧ r'.filled.length + r'.need = size) ∨
      (∃ e, r.turn t = .inr (.error e)) ∨
        ∃ bytes, r.turn t = .inr (.ok bytes) ∧ bytes.length = size := by
  by_cases some : ∃ byte bytes, t.result = .ok (byte :: bytes)
  · obtain ⟨byte, bytes, brings⟩ := some
    have short := List.length_take_le r.need (byte :: bytes)
    unfold turn fill
    rw [brings]
    dsimp only
    split_ifs with full
    · refine .inr (.inr ⟨_, rfl, ?_⟩)
      rw [List.length_append]
      omega
    · refine .inl ⟨_, rfl, ?_⟩
      dsimp only
      rw [List.length_append]
      omega
  · have none : ∀ chunk, t.result = .ok chunk → chunk = [] := by
      intro chunk brings
      cases chunk with
      | nil => rfl
      | cons byte bytes => exact absurd ⟨byte, bytes, brings⟩ some
    rcases r.turn_idle none with ⟨remaining, idle⟩ | failed
    · exact .inl ⟨_, idle, all⟩
    · exact .inr (.inl failed)

/-- In a turn a call waits, fails, or returns all its bytes. -/
theorem Blocked.turn_sized {P : Blocked α ⊕ α → Prop} {call : ReadExact} {size : Nat}
    {next : Except IoError (List UInt8) → Reads α} (all : call.filled.length + call.need = size)
    (t : Turn)
    (waits : ∀ call', call'.filled.length + call'.need = size → P (.inl ⟨call',next⟩))
    (fails : ∀ e, P (next (.error e)).start)
    (returns : ∀ bytes, bytes.length = size → P (next (.ok bytes)).start) :
    P (turn ⟨call,next⟩ t) := by
  unfold turn
  rcases ReadExact.turn_sized all t with ⟨call', more, all'⟩ | ⟨e, failed⟩ | ⟨bytes, done, sized⟩
  · rw [more]
    exact waits call' all'
  · rw [failed]
    exact fails e
  · rw [done]
    exact returns bytes sized

/-- At the end of a stream a call waits, until its deadline. -/
theorem Blocked.turn_zero (b : Blocked α) (late : Nat) :
    b.turn ⟨.ok [],late⟩ =
      if b.call.remaining ≤ late then (b.next (.error deadlineExceeded)).start
      else .inl { b with call := { b.call with remaining := b.call.remaining - late - 1 } } := by
  unfold turn ReadExact.turn ReadExact.waitForIo
  dsimp only
  split_ifs <;> rfl

@[simp] theorem Blocked.turn_interrupted (b : Blocked α) (late : Nat) :
    b.turn ⟨.interrupted,late⟩ = .inl b := rfl

section Termination

variable {schedule : Nat → Turn}

/-- Interruptions do not go on for ever. -/
def Fair (schedule : Nat → Turn) : Prop := ∀ n, ∃ m ≥ n, (schedule m).result ≠ .interrupted

/-- From every point of the schedule the state is done after some more turns. -/
def Ends (schedule : Nat → Turn) (s : Blocked α ⊕ α) : Prop :=
  ∀ i, ∃ n a, Blocked.turns s ((List.range' i n).map schedule) = .inr a

theorem ends_of_turn {b : Blocked α} {i n : Nat} {a : α}
    (h : Blocked.turns (b.turn (schedule i)) ((List.range' (i + 1) n).map schedule) = .inr a) :
    ∃ n a, Blocked.turns (.inl b) ((List.range' i n).map schedule) = .inr a := by
  refine ⟨n + 1, a, ?_⟩
  rw [List.range'_succ, List.map_cons]
  exact h

/-- An interrupted read is tried again until it is not. -/
theorem ends_of_awake {b : Blocked α} (fair : Fair schedule)
    (awake : ∀ i, (schedule i).result ≠ .interrupted → Ends schedule (b.turn (schedule i))) :
    Ends schedule (.inl b) := by
  intro i
  obtain ⟨m, later, hm⟩ := fair i
  obtain ⟨d, rfl⟩ := Nat.exists_eq_add_of_le later
  induction d generalizing i with
  | zero =>
    obtain ⟨n, a, done⟩ := awake i hm (i + 1)
    exact ends_of_turn done
  | succ d ih =>
    by_cases hi : (schedule i).result = .interrupted
    · have again : b.turn (schedule i) = .inl b := by
        simp only [Blocked.turn, ReadExact.turn, hi]
      obtain ⟨n, a, done⟩ := ih (i + 1) (by omega) (by rwa [Nat.add_right_comm])
      exact ends_of_turn (by rw [again]; exact done)
    · obtain ⟨n, a, done⟩ := awake i hi (i + 1)
      exact ends_of_turn done

theorem blocked_ends (fair : Fair schedule) {next : Except IoError (List UInt8) → Reads α}
    (continues : ∀ result, Ends schedule (next result).start) (call : ReadExact) :
    Ends schedule (.inl ⟨call,next⟩) := by
  induction size : call.need + call.remaining using Nat.strongRecOn generalizing call with
  | _ size ih =>
    apply ends_of_awake fair
    intro i awake
    unfold Blocked.turn
    rcases call.turn_decreases (schedule i) awake with ⟨result, ended⟩ | ⟨call', more, less⟩
    · rw [ended]
      exact continues result
    · rw [more]
      exact ih _ (size ▸ less) call' rfl

theorem Reads.ends (fair : Fair schedule) (p : Reads α) : Ends schedule p.start := by
  induction p with
  | done a =>
    intro i
    exact ⟨0, a, rfl⟩
  | readExact size timeout next ih =>
    unfold start
    split_ifs
    · exact ih _
    · exact blocked_ends fair ih _

/-- On every schedule whose interruptions end, a program returns. -/
theorem Reads.returns (fair : Fair schedule) (p : Reads α) :
    ∃ n a, p.run ((List.range n).map schedule) = .inr a := by
  obtain ⟨n, a, done⟩ := p.ends fair 0
  exact ⟨n, a, by rw [List.range_eq_range']; exact done⟩

end Termination

end Kesharon.Ipc
