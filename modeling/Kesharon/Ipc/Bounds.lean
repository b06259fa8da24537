import Kesharon.Ipc.Program

namespace Kesharon.Ipc

/-- One pass through the loop of a call: what the system call returns, where it reads and where it
writes, and the milliseconds to the look at the clock. -/
structure Syscall where
  read : ReadResult
  write : WriteResult
  late : Nat
  deriving DecidableEq, Repr

def Syscall.uninterrupted (p : Syscall) : Bool :=
  p.read ≠ .interrupted ∧ p.write ≠ .interrupted

variable {α β : Type}

namespace Suspended

def pass (p : Syscall) : Suspended α → Suspended α ⊕ α
  | .reading call next =>
    match call.turn ⟨p.read,p.late⟩ with
    | .inl call => .inl (.reading call next)
    | .inr result => (next result).start
  | .writing call next =>
    match call.turn p.write p.late with
    | .inl call => .inl (.writing call next)
    | .inr result => (next result).start

/-- The passes of a schedule, until the program is done. -/
def passes : Suspended α ⊕ α → List Syscall → Suspended α ⊕ α
  | .inr a, _ => .inr a
  | .inl s, [] => .inl s
  | .inl s, p :: ps => passes (s.pass p) ps

theorem passes_nil (s : Suspended α ⊕ α) : passes s [] = s := by
  cases s <;> rfl

theorem passes_done (a : α) (ps : List Syscall) : passes (.inr a) ps = .inr a := by
  cases ps <;> rfl

theorem passes_append (s : Suspended α ⊕ α) (ps qs : List Syscall) :
    passes s (ps ++ qs) = passes (passes s ps) qs := by
  induction ps generalizing s with
  | nil => rw [passes_nil, List.nil_append]
  | cons p ps ih =>
    cases s with
    | inr a => rw [passes_done, passes_done, passes_done]
    | inl s => exact ih (s.pass p)

end Suspended

namespace Program

/-- The program against a stream that does in each pass whatever the schedule says. -/
def run (p : Program α) (ps : List Syscall) : Suspended α ⊕ α := Suspended.passes p.start ps

/-- Whatever the stream does, the program has returned after so many passes that are not
interrupted. -/
def EndsWithin (n : Nat) (p : Program α) : Prop :=
  ∀ ps : List Syscall, n ≤ ps.countP Syscall.uninterrupted → ∃ a, p.run ps = .inr a

/-- The calls of a program leave room for so many passes: for each call one for every byte of its
buffer, and one for every millisecond of its timeout. -/
inductive Takes : Nat → Program α → Prop where
  | done (n : Nat) (a : α) : Takes n (.done a)
  | readExact {size timeout m n : Nat} {next : Except IoError (List UInt8) → Program α}
      (enough : timeout + size + m ≤ n) (rest : ∀ r, Takes m (next r)) :
      Takes n (.readExact size timeout next)
  | writeAll {bytes : List UInt8} {timeout m n : Nat} {next : Except IoError Unit → Program α}
      (enough : timeout + bytes.length + m ≤ n) (rest : ∀ r, Takes m (next r)) :
      Takes n (.writeAll bytes timeout next)

theorem Takes.mono {p : Program α} {n m : Nat} (h : p.Takes n) (more : n ≤ m) : p.Takes m := by
  cases h with
  | done _ a => exact .done m a
  | readExact enough rest => exact .readExact (Nat.le_trans enough more) rest
  | writeAll enough rest => exact .writeAll (Nat.le_trans enough more) rest

theorem Takes.map (f : α → β) {p : Program α} {n : Nat} (h : p.Takes n) : (p.map f).Takes n := by
  induction h with
  | done n a => exact .done n (f a)
  | readExact enough _ ih => exact .readExact enough ih
  | writeAll enough _ ih => exact .writeAll enough ih

end Program

/-- The same for reads alone. -/
inductive Reads.Takes : Nat → Reads α → Prop where
  | done (n : Nat) (a : α) : Takes n (.done a)
  | readExact {size timeout m n : Nat} {next : Except IoError (List UInt8) → Reads α}
      (enough : timeout + size + m ≤ n) (rest : ∀ r, Takes m (next r)) :
      Takes n (.readExact size timeout next)

theorem Reads.Takes.map (f : α → β) {p : Reads α} {n : Nat} (h : p.Takes n) :
    (p.map f).Takes n := by
  induction h with
  | done n a => exact .done n (f a)
  | readExact enough _ ih => exact .readExact enough ih

theorem Reads.Takes.andThen {k : α → Program β} {p : Reads α} {n m : Nat} (h : p.Takes n)
    (rest : ∀ a, (k a).Takes m) : (p.andThen k).Takes (n + m) := by
  induction h with
  | done n a => exact (rest a).mono (Nat.le_add_left m n)
  | readExact enough _ ih => exact .readExact (by omega) ih

/-- A call that goes on still needs a byte. -/
theorem ReadExact.turn_need_pos {r r' : ReadExact} {t : Turn} (room : 0 < r.need)
    (h : r.turn t = .inl r') : 0 < r'.need := by
  have waits (h : r.waitForIo t.late = .inl r') : 0 < r'.need := by
    unfold waitForIo at h
    split_ifs at h
    obtain rfl := Sum.inl.inj h
    exact room
  unfold turn at h
  split at h
  · exact waits h
  · unfold fill at h
    split_ifs at h with full
    obtain rfl := Sum.inl.inj h
    dsimp only
    omega
  · obtain rfl := Sum.inl.inj h
    exact room
  · exact waits h
  · cases h

theorem WriteAll.turn_left_pos {w w' : WriteAll} {result : WriteResult} {late : Nat}
    (some : 0 < w.left.length) (h : w.turn result late = .inl w') : 0 < w'.left.length := by
  have waits (h : w.waitForIo late = .inl w') : 0 < w'.left.length := by
    unfold waitForIo at h
    split_ifs at h
    obtain rfl := Sum.inl.inj h
    exact some
  unfold turn at h
  split at h
  · exact waits h
  · unfold advance at h
    split_ifs at h with all
    obtain rfl := Sum.inl.inj h
    dsimp only
    rw [List.length_drop]
    omega
  · obtain rfl := Sum.inl.inj h
    exact some
  · exact waits h
  · cases h

/-- A call that goes on has room or time spent, unless it was interrupted. -/
theorem ReadExact.turn_spends {r r' : ReadExact} {t : Turn} (room : 0 < r.need)
    (h : r.turn t = .inl r') :
    0 < r'.need ∧ r'.need + r'.remaining ≤ r.need + r.remaining ∧
      (t.result ≠ .interrupted → r'.need + r'.remaining < r.need + r.remaining) := by
  have less (awake : t.result ≠ .interrupted) :
      r'.need + r'.remaining < r.need + r.remaining := by
    rcases r.turn_decreases t awake with ⟨result, ended⟩ | ⟨call, more, less⟩
    · rw [h] at ended
      cases ended
    · rw [h] at more
      obtain rfl := Sum.inl.inj more
      exact less
  refine ⟨turn_need_pos room h, ?_, less⟩
  by_cases interrupted : t.result = .interrupted
  · unfold turn at h
    rw [interrupted] at h
    obtain rfl := Sum.inl.inj h
    exact Nat.le_refl _
  · exact Nat.le_of_lt (less interrupted)

theorem WriteAll.turn_spends {w w' : WriteAll} {result : WriteResult} {late : Nat}
    (some : 0 < w.left.length) (h : w.turn result late = .inl w') :
    0 < w'.left.length ∧ w'.left.length + w'.remaining ≤ w.left.length + w.remaining ∧
      (result ≠ .interrupted →
        w'.left.length + w'.remaining < w.left.length + w.remaining) := by
  have less (awake : result ≠ .interrupted) :
      w'.left.length + w'.remaining < w.left.length + w.remaining := by
    rcases w.turn_decreases late awake with ⟨r, ended⟩ | ⟨call, more, less⟩
    · rw [h] at ended
      cases ended
    · rw [h] at more
      obtain rfl := Sum.inl.inj more
      exact less
  refine ⟨turn_left_pos some h, ?_, less⟩
  by_cases interrupted : result = .interrupted
  · unfold turn at h
    rw [interrupted] at h
    obtain rfl := Sum.inl.inj h
    exact Nat.le_refl _
  · exact Nat.le_of_lt (less interrupted)

namespace Suspended

/-- The passes that are left: those of the call that the program is in, and those of the calls
behind it. -/
inductive Left : Nat → Suspended α ⊕ α → Prop where
  | returned (n : Nat) (a : α) : Left n (.inr a)
  | reading {call : ReadExact} {m n : Nat} {next : Except IoError (List UInt8) → Program α}
      (room : 0 < call.need) (enough : call.need + call.remaining + m ≤ n)
      (rest : ∀ r, (next r).Takes m) : Left n (.inl (.reading call next))
  | writing {call : WriteAll} {m n : Nat} {next : Except IoError Unit → Program α}
      (some : 0 < call.left.length) (enough : call.left.length + call.remaining + m ≤ n)
      (rest : ∀ r, (next r).Takes m) : Left n (.inl (.writing call next))

theorem Left.mono {s : Suspended α ⊕ α} {n m : Nat} (h : Left n s) (more : n ≤ m) : Left m s := by
  cases h with
  | returned _ a => exact .returned m a
  | reading room enough rest => exact .reading room (Nat.le_trans enough more) rest
  | writing some enough rest => exact .writing some (Nat.le_trans enough more) rest

theorem start_left {p : Program α} {n : Nat} (h : p.Takes n) : Left n p.start := by
  induction h with
  | done n a => exact .returned n a
  | @readExact size timeout m n next enough rest ih =>
    unfold Program.start
    split_ifs with empty
    · exact (ih _).mono (by omega)
    · exact .reading (by dsimp only; omega) (by dsimp only; omega) rest
  | @writeAll bytes timeout m n next enough rest ih =>
    unfold Program.start
    split_ifs with empty
    · exact (ih _).mono (by omega)
    · have some : 0 < bytes.length := List.length_pos_iff.mpr empty
      exact .writing some (by dsimp only; omega) rest

/-- No pass adds to what is left, and one that is not interrupted takes some of it. -/
theorem pass_left {s : Suspended α} {n : Nat} (h : Left n (.inl s)) (p : Syscall) :
    Left n (s.pass p) ∧ (p.uninterrupted = true → 0 < n ∧ Left (n - 1) (s.pass p)) := by
  generalize here : Sum.inl s = state at h
  cases h with
  | returned n a => cases here
  | @reading call m _ next room enough rest =>
    obtain rfl := Sum.inl.inj here
    unfold pass
    dsimp only
    cases turned : call.turn ⟨p.read,p.late⟩ with
    | inr result =>
      have behind := start_left (rest result)
      refine ⟨behind.mono (by omega), ?_⟩
      intro _
      exact ⟨by omega, behind.mono (by omega)⟩
    | inl call' =>
      obtain ⟨room', keeps, spends⟩ := ReadExact.turn_spends room turned
      refine ⟨.reading room' (by omega) rest, ?_⟩
      intro awake
      unfold Syscall.uninterrupted at awake
      have less := spends (of_decide_eq_true awake).1
      exact ⟨by omega, .reading room' (by omega) rest⟩
  | @writing call m _ next some enough rest =>
    obtain rfl := Sum.inl.inj here
    unfold pass
    dsimp only
    cases turned : call.turn p.write p.late with
    | inr result =>
      have behind := start_left (rest result)
      refine ⟨behind.mono (by omega), ?_⟩
      intro _
      exact ⟨by omega, behind.mono (by omega)⟩
    | inl call' =>
      obtain ⟨some', keeps, spends⟩ := WriteAll.turn_spends some turned
      refine ⟨.writing some' (by omega) rest, ?_⟩
      intro awake
      unfold Syscall.uninterrupted at awake
      have less := spends (of_decide_eq_true awake).2
      exact ⟨by omega, .writing some' (by omega) rest⟩

/-- When nothing is left the program is done. -/
theorem passes_end {s : Suspended α ⊕ α} {n : Nat} (h : Left n s) (ps : List Syscall)
    (enough : n ≤ ps.countP Syscall.uninterrupted) : ∃ a, passes s ps = .inr a := by
  induction ps generalizing s n with
  | nil =>
    have none : n = 0 := by simpa using enough
    subst none
    cases h with
    | returned _ a => exact ⟨a, rfl⟩
    | reading room enough rest => omega
    | writing some enough rest => omega
  | cons p ps ih =>
    cases s with
    | inr a => exact ⟨a, rfl⟩
    | inl s =>
      obtain ⟨keeps, spends⟩ := pass_left h p
      by_cases awake : p.uninterrupted = true
      · obtain ⟨some, left⟩ := spends awake
        rw [List.countP_cons_of_pos awake] at enough
        exact ih left (by omega)
      · rw [List.countP_cons_of_neg awake] at enough
        exact ih keeps enough

end Suspended

theorem Program.Takes.endsWithin {p : Program α} {n : Nat} (h : p.Takes n) : p.EndsWithin n :=
  fun ps enough => Suspended.passes_end (Suspended.start_left h) ps enough

section Drip

/-- A stream that has nothing until the deadline, and then brings the bytes one by one. -/
def drip (timeout : Nat) (bytes : List UInt8) : List Syscall :=
  List.replicate timeout ⟨.wouldBlock,.wouldBlock,0⟩ ++
    bytes.map fun byte => ⟨.ok [byte],.wouldBlock,0⟩

@[simp] theorem drip_length (timeout : Nat) (bytes : List UInt8) :
    (drip timeout bytes).length = timeout + bytes.length := by
  simp [drip]

theorem drip_uninterrupted {timeout : Nat} {bytes : List UInt8} {p : Syscall}
    (here : p ∈ drip timeout bytes) : p.uninterrupted = true := by
  unfold drip at here
  rcases List.mem_append.mp here with waits | brings
  · obtain rfl := List.eq_of_mem_replicate waits
    rfl
  · obtain ⟨byte, _, rfl⟩ := List.mem_map.mp brings
    rfl

variable {next : Except IoError (List UInt8) → Program α}

/-- The call waits until its last millisecond. -/
theorem Suspended.passes_wait (need timeout : Nat) (filled : List UInt8) :
    passes (.inl (.reading ⟨need,filled,timeout⟩ next))
      (List.replicate timeout ⟨.wouldBlock,.wouldBlock,0⟩) =
      .inl (.reading ⟨need,filled,0⟩ next) := by
  induction timeout with
  | zero => rfl
  | succ timeout ih =>
    have wait : (ReadExact.mk need filled (timeout + 1)).turn ⟨.wouldBlock,0⟩ =
        .inl ⟨need,filled,timeout⟩ := by
      unfold ReadExact.turn ReadExact.waitForIo
      dsimp only
      rw [if_neg (by omega)]
      rfl
    rw [List.replicate_succ]
    unfold passes pass
    dsimp only
    rw [wait]
    exact ih

/-- Bytes that come one by one are taken, as long as they do not fill the buffer. -/
theorem Suspended.passes_fill (need remaining : Nat) (filled bytes : List UInt8)
    (room : 0 < need) :
    passes (.inl (.reading ⟨bytes.length + need,filled,remaining⟩ next))
      (bytes.map fun byte => ⟨.ok [byte],.wouldBlock,0⟩) =
      .inl (.reading ⟨need,filled ++ bytes,remaining⟩ next) := by
  induction bytes generalizing filled with
  | nil => simp [passes_nil]
  | cons byte bytes ih =>
    have fill : (ReadExact.mk (bytes.length + 1 + need) filled remaining).turn ⟨.ok [byte],0⟩ =
        .inl ⟨bytes.length + need,filled ++ [byte],remaining⟩ := by
      have one : [byte].take (bytes.length + 1 + need) = [byte] :=
        List.take_of_length_le (by simp; omega)
      have fewer : bytes.length + 1 + need - 1 = bytes.length + need := by omega
      unfold ReadExact.turn ReadExact.fill
      dsimp only
      rw [one, List.length_singleton, if_neg (by omega), fewer]
    rw [List.length_cons, List.map_cons]
    unfold passes pass
    dsimp only
    rw [fill]
    dsimp only
    rw [ih, List.append_assoc, List.singleton_append]

/-- Short of its last bytes, a call is still waiting behind a drip. -/
theorem Suspended.drip_short {need timeout : Nat} (bytes : List UInt8) (room : 0 < need) :
    passes (Program.readExact (bytes.length + need) timeout next).start (drip timeout bytes) =
      .inl (.reading ⟨need,bytes,0⟩ next) := by
  unfold Program.start drip
  rw [if_neg (by omega), passes_append, passes_wait, passes_fill _ _ _ _ room, List.nil_append]

/-- With them, the program goes on. -/
theorem Suspended.drip_whole {size timeout : Nat} {bytes : List UInt8} (whole : bytes.length = size)
    (some : 0 < size) (more : List Syscall) :
    passes (Program.readExact size timeout next).start (drip timeout bytes ++ more) =
      passes (next (.ok bytes)).start more := by
  have nonempty : bytes ≠ [] := List.length_pos_iff.mp (by omega)
  obtain ⟨front, byte, rfl⟩ : ∃ front byte, bytes = front ++ [byte] :=
    ⟨_, _, (List.dropLast_concat_getLast nonempty).symm⟩
  have split : drip timeout (front ++ [byte]) ++ more =
      drip timeout front ++ (⟨.ok [byte],.wouldBlock,0⟩ :: more) := by
    simp [drip]
  have last : (ReadExact.mk 1 front 0).turn ⟨.ok [byte],0⟩ = .inr (.ok (front ++ [byte])) := rfl
  rw [List.length_append, List.length_singleton] at whole
  rw [split, passes_append, ← whole, drip_short front (by omega)]
  show passes (pass ⟨.ok [byte],.wouldBlock,0⟩ (.reading ⟨1,front,0⟩ next)) more = _
  unfold pass
  dsimp only
  rw [last]

end Drip

end Kesharon.Ipc
