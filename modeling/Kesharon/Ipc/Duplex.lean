import Kesharon.Ipc.Program

namespace Kesharon.Ipc

/-- What a stream has in store for one call: to move some bytes, at most so many, or none. -/
inductive Offer where
  | bytes (count : Nat)
  | interrupted
  | wouldBlock
  deriving DecidableEq, Repr

namespace Offer

/-- The bytes that are moved, of those there are. -/
def moved (available : List UInt8) : Offer → List UInt8
  | .bytes count => available.take count
  | _ => []

def read (chunk : List UInt8) : Offer → ReadResult
  | .bytes _ => .ok chunk
  | .interrupted => .interrupted
  | .wouldBlock => .wouldBlock

def write (chunk : List UInt8) : Offer → WriteResult
  | .bytes _ => .ok chunk.length
  | .interrupted => .interrupted
  | .wouldBlock => .wouldBlock

end Offer

variable {α β : Type}

/-- A program, and the bytes that have been sent to it and that it has not read. -/
structure Party (α : Type) where
  run : Suspended α ⊕ α
  unread : List UInt8

namespace Party

def new (p : Program α) : Party α := ⟨p.start,[]⟩

/-- One pass of the program through the loop that it is in, and the bytes it sends. -/
def turn (p : Party α) (offer : Offer) (late : Nat) : Party α × List UInt8 :=
  match p.run with
  | .inr _ => (p, [])
  | .inl (.reading call next) =>
    let chunk := offer.moved (p.unread.take call.need)
    let unread := p.unread.drop chunk.length
    match call.turn ⟨offer.read chunk,late⟩ with
    | .inl call => (⟨.inl (.reading call next),unread⟩, [])
    | .inr result => (⟨(next result).start,unread⟩, [])
  | .inl (.writing call next) =>
    let chunk := offer.moved call.left
    match call.turn (offer.write chunk) late with
    | .inl call => (⟨.inl (.writing call next),p.unread⟩, chunk)
    | .inr result => (⟨(next result).start,p.unread⟩, chunk)

/-- The call that the program is in meets its deadline. -/
def Expires (p : Party α) (offer : Offer) (late : Nat) : Prop :=
  match p.run with
  | .inr _ => False
  | .inl (.reading call _) =>
    call.turn ⟨offer.read (offer.moved (p.unread.take call.need)),late⟩ =
      .inr (.error deadlineExceeded)
  | .inl (.writing call _) =>
    call.turn (offer.write (offer.moved call.left)) late = .inr (.error deadlineExceeded)

instance (p : Party α) (offer : Offer) (late : Nat) : Decidable (p.Expires offer late) :=
  match p with
  | ⟨.inr _,_⟩ => inferInstanceAs (Decidable False)
  | ⟨.inl (.reading _ _),_⟩ => inferInstanceAs (Decidable (_ = _))
  | ⟨.inl (.writing _ _),_⟩ => inferInstanceAs (Decidable (_ = _))

end Party

/-- A pass that moves no byte waits, unless it meets the deadline. -/
theorem ReadExact.turn_waits (r : ReadExact) (offer : Offer) (late : Nat)
    (onTime : r.turn ⟨offer.read [],late⟩ ≠ .inr (.error deadlineExceeded)) :
    ∃ remaining, r.turn ⟨offer.read [],late⟩ = .inl { r with remaining := remaining } := by
  have waits (h : r.waitForIo late ≠ .inr (.error deadlineExceeded)) :
      ∃ remaining, r.waitForIo late = .inl { r with remaining := remaining } := by
    unfold waitForIo at h ⊢
    split_ifs at h ⊢
    · exact absurd rfl h
    · exact ⟨_, rfl⟩
  cases offer with
  | interrupted => exact ⟨r.remaining, rfl⟩
  | bytes count => exact waits onTime
  | wouldBlock => exact waits onTime

theorem ReadExact.turn_fills {r : ReadExact} {chunk : List UInt8} (some : chunk ≠ [])
    (short : chunk.length ≤ r.need) (late : Nat) : r.turn ⟨.ok chunk,late⟩ = r.fill chunk := by
  cases chunk with
  | nil => exact absurd rfl some
  | cons byte bytes =>
    have all : (byte :: bytes).take r.need = byte :: bytes := List.take_of_length_le short
    unfold turn
    dsimp only
    rw [all]

theorem WriteAll.turn_waits (w : WriteAll) (offer : Offer) (late : Nat)
    (onTime : w.turn (offer.write []) late ≠ .inr (.error deadlineExceeded)) :
    ∃ remaining, w.turn (offer.write []) late = .inl { w with remaining := remaining } := by
  have waits (h : w.waitForIo late ≠ .inr (.error deadlineExceeded)) :
      ∃ remaining, w.waitForIo late = .inl { w with remaining := remaining } := by
    unfold waitForIo at h ⊢
    split_ifs at h ⊢
    · exact absurd rfl h
    · exact ⟨_, rfl⟩
  cases offer with
  | interrupted => exact ⟨w.remaining, rfl⟩
  | bytes count => exact waits onTime
  | wouldBlock => exact waits onTime

theorem WriteAll.turn_advances {w : WriteAll} {chunk : List UInt8} (some : chunk ≠ [])
    (late : Nat) : w.turn (.ok chunk.length) late = w.advance chunk.length := by
  cases chunk with
  | nil => exact absurd rfl some
  | cons byte bytes => rfl

/-- An offer that moves bytes. -/
theorem Offer.of_moved {offer : Offer} {available : List UInt8}
    (some : offer.moved available ≠ []) : ∃ count, offer = .bytes count := by
  cases offer with
  | bytes count => exact ⟨count, rfl⟩
  | interrupted => exact absurd rfl some
  | wouldBlock => exact absurd rfl some

theorem Offer.moved_prefix (offer : Offer) (available : List UInt8) :
    offer.moved available <+: available := by
  cases offer with
  | bytes count => exact List.take_prefix _ _
  | interrupted => exact List.nil_prefix
  | wouldBlock => exact List.nil_prefix

namespace Suspended

/-- Bytes that are read are not read again. -/
theorem outcome_fill {call : ReadExact} {next : Except IoError (List UInt8) → Program α}
    {chunk rest : List UInt8} (short : chunk.length ≤ call.need) :
    outcome ((call.fill chunk).elim (fun call => .inl (.reading call next))
        fun result => (next result).start) rest =
      outcome (.inl (.reading call next)) (chunk ++ rest) := by
  unfold ReadExact.fill
  by_cases full : call.need ≤ chunk.length
  · have same : chunk.length = call.need := Nat.le_antisymm short full
    have front : (chunk ++ rest).take call.need = chunk := List.take_left' same
    have back : (chunk ++ rest).drop call.need = rest := List.drop_left' same
    have enough : call.need ≤ (chunk ++ rest).length := by
      rw [List.length_append]
      omega
    rw [if_pos full, Sum.elim_inr, outcome_start, outcome_reading, if_pos enough, front, back]
  · rw [if_neg full, Sum.elim_inl, outcome_reading, outcome_reading]
    dsimp only
    have cut : call.need = chunk.length + (call.need - chunk.length) := by omega
    by_cases enough : call.need ≤ (chunk ++ rest).length
    · have more : call.need - chunk.length ≤ rest.length := by
        rw [List.length_append] at enough
        omega
      have front : (chunk ++ rest).take call.need =
          chunk ++ rest.take (call.need - chunk.length) := by
        rw [cut, List.take_length_add_append, Nat.add_sub_cancel_left]
      have back : (chunk ++ rest).drop call.need = rest.drop (call.need - chunk.length) := by
        rw [cut, List.drop_length_add_append, Nat.add_sub_cancel_left]
      rw [if_pos enough, if_pos more, front, back, List.append_assoc]
    · have less : ¬ call.need - chunk.length ≤ rest.length := by
        rw [List.length_append] at enough
        omega
      rw [if_neg enough, if_neg less]

end Suspended

namespace Party

/-- In time, a pass neither loses nor invents a byte: the program makes the same of its input, with
what it sends in the pass and what it sends later. -/
theorem turn_outcome {p : Party α} {offer : Offer} {late : Nat} {more : List UInt8} {o : Outcome α}
    (h : Suspended.outcome p.run (p.unread ++ more) = some o) (onTime : ¬ p.Expires offer late) :
    ∃ o', Suspended.outcome (p.turn offer late).1.run ((p.turn offer late).1.unread ++ more) =
        some o' ∧ o = o'.behind (p.turn offer late).2 := by
  obtain ⟨run, unread⟩ := p
  cases run with
  | inr a => exact ⟨o, h, rfl⟩
  | inl b =>
    cases b with
    | reading call next =>
      unfold Expires at onTime
      unfold turn
      dsimp only at onTime h ⊢
      have front := offer.moved_prefix (unread.take call.need)
      generalize moved : offer.moved (unread.take call.need) = chunk at onTime front ⊢
      by_cases none : chunk = []
      · subst none
        obtain ⟨remaining, waits⟩ := call.turn_waits offer late onTime
        rw [waits]
        exact ⟨o, h, rfl⟩
      · obtain ⟨count, rfl⟩ := Offer.of_moved (by rw [moved]; exact none)
        have short : chunk.length ≤ call.need :=
          Nat.le_trans front.length_le (List.length_take_le _ _)
        obtain ⟨rest, split⟩ := front.trans (List.take_prefix _ _)
        have fills : call.turn ⟨Offer.read chunk (.bytes count),late⟩ = call.fill chunk :=
          ReadExact.turn_fills none short late
        have same := @Suspended.outcome_fill α call next chunk (rest ++ more) short
        rw [← List.append_assoc, split, h] at same
        have left : unread.drop chunk.length = rest := by
          rw [← split, List.drop_left]
        rw [fills, left]
        cases filled : call.fill chunk with
        | inl call' =>
          rw [filled] at same
          exact ⟨o, same, rfl⟩
        | inr result =>
          rw [filled] at same
          exact ⟨o, same, rfl⟩
    | writing call next =>
      unfold Expires at onTime
      unfold turn
      dsimp only at onTime h ⊢
      have front := offer.moved_prefix call.left
      generalize moved : offer.moved call.left = chunk at onTime front ⊢
      by_cases none : chunk = []
      · subst none
        obtain ⟨remaining, waits⟩ := call.turn_waits offer late onTime
        rw [waits]
        exact ⟨o, h, rfl⟩
      · obtain ⟨count, rfl⟩ := Offer.of_moved (by rw [moved]; exact none)
        have advances : call.turn (Offer.write chunk (.bytes count)) late =
            call.advance chunk.length := WriteAll.turn_advances none late
        obtain ⟨rest, split⟩ := front
        obtain ⟨o', h', rfl⟩ := Option.map_eq_some_iff.mp h
        rw [advances]
        unfold WriteAll.advance
        by_cases all : call.left.length ≤ chunk.length
        · have whole : rest = [] := by
            have size := congrArg List.length split
            rw [List.length_append] at size
            exact List.eq_nil_of_length_eq_zero (by omega)
          rw [if_pos all]
          refine ⟨o', ?_, ?_⟩
          · exact (Suspended.outcome_start _ _).trans h'
          · rw [← split, whole, List.append_nil]
        · rw [if_neg all]
          refine ⟨o'.behind rest, ?_, ?_⟩
          · have left : call.left.drop chunk.length = rest := by
              rw [← split, List.drop_left]
            dsimp only [Suspended.outcome]
            rw [left, h']
            rfl
          · rw [← Outcome.behind_append, split]

end Party

inductive Side where
  | client
  | server
  deriving DecidableEq, Repr

def Side.other : Side → Side
  | .client => .server
  | .server => .client

/-- One pass of one of the two programs. -/
structure Pass where
  side : Side
  offer : Offer
  late : Nat
  deriving DecidableEq, Repr

def Pass.swap (p : Pass) : Pass := { p with side := p.side.other }

/-- Two programs at the ends of a connection that neither closes. -/
structure Duplex (α β : Type) where
  client : Party α
  server : Party β

namespace Duplex

def new (client : Program α) (server : Program β) : Duplex α β := ⟨.new client,.new server⟩

def swap (s : Duplex α β) : Duplex β α := ⟨s.server,s.client⟩

def clientTurn (s : Duplex α β) (offer : Offer) (late : Nat) : Duplex α β :=
  let (client, bytes) := s.client.turn offer late
  ⟨client,{ s.server with unread := s.server.unread ++ bytes }⟩

def turn (s : Duplex α β) (p : Pass) : Duplex α β :=
  match p.side with
  | .client => s.clientTurn p.offer p.late
  | .server => (s.swap.clientTurn p.offer p.late).swap

/-- The programs after some passes of a schedule. -/
def after (s : Duplex α β) (schedule : Nat → Pass) : Nat → Duplex α β
  | 0 => s
  | n + 1 => (s.after schedule n).turn (schedule n)

def Expires (s : Duplex α β) (p : Pass) : Prop :=
  match p.side with
  | .client => s.client.Expires p.offer p.late
  | .server => s.server.Expires p.offer p.late

instance (s : Duplex α β) (p : Pass) : Decidable (s.Expires p) :=
  match p with
  | ⟨.client,_,_⟩ => inferInstanceAs (Decidable (s.client.Expires _ _))
  | ⟨.server,_,_⟩ => inferInstanceAs (Decidable (s.server.Expires _ _))

/-- No deadline expires in the first passes. -/
def OnTime (s : Duplex α β) (schedule : Nat → Pass) (n : Nat) : Prop :=
  ∀ m < n, ¬ (s.after schedule m).Expires (schedule m)

instance (s : Duplex α β) (schedule : Nat → Pass) (n : Nat) : Decidable (s.OnTime schedule n) :=
  inferInstanceAs (Decidable (∀ m < n, ¬ (s.after schedule m).Expires (schedule m)))

/-- Each program has passes that are not interrupted, again and again. -/
def Fair (schedule : Nat → Pass) : Prop :=
  ∀ side n, ∃ m ≥ n, (schedule m).side = side ∧ (schedule m).offer ≠ .interrupted

variable {s : Duplex α β} {schedule : Nat → Pass}

theorem after_succ (s : Duplex α β) (schedule : Nat → Pass) (n : Nat) :
    s.after schedule (n + 1) = (s.after schedule n).turn (schedule n) := rfl

theorem turn_client (s : Duplex α β) {p : Pass} (own : p.side = .client) :
    s.turn p = s.clientTurn p.offer p.late := by
  unfold turn
  rw [own]

theorem swap_turn (s : Duplex α β) (p : Pass) : s.swap.turn p.swap = (s.turn p).swap := by
  obtain ⟨side, offer, late⟩ := p
  cases side <;> rfl

theorem swap_after (s : Duplex α β) (schedule : Nat → Pass) (n : Nat) :
    s.swap.after (fun n => (schedule n).swap) n = (s.after schedule n).swap := by
  induction n with
  | zero => rfl
  | succ n ih =>
    rw [after_succ, ih, swap_turn]
    rfl

theorem Fair.swap (fair : Fair schedule) : Fair fun n => (schedule n).swap := by
  intro side n
  obtain ⟨m, later, same, awake⟩ := fair side.other n
  refine ⟨m, later, ?_, awake⟩
  change (schedule m).side.other = side
  rw [same]
  cases side <;> rfl

section Termination

/-- The client's program moves only in passes of its own that are not interrupted. -/
theorem client_kept (s : Duplex α β) {p : Pass}
    (idle : p.side = .server ∨ p.offer = .interrupted) : (s.turn p).client.run = s.client.run := by
  obtain ⟨side, offer, late⟩ := p
  obtain ⟨⟨run, unread⟩, server⟩ := s
  cases side with
  | server => rfl
  | client =>
    obtain rfl := idle.resolve_left (by simp)
    cases run with
    | inr a => rfl
    | inl b => cases b <;> rfl

/-- Whenever the client's program stands here, it will have returned. -/
def Ends (s : Duplex α β) (schedule : Nat → Pass) (r : Suspended α ⊕ α) : Prop :=
  ∀ n, (s.after schedule n).client.run = r →
    ∃ m ≥ n, ∃ a, (s.after schedule m).client.run = .inr a

theorem ends_of_awake {r : Suspended α ⊕ α} (fair : Fair schedule)
    (awake : ∀ t offer late, offer ≠ .interrupted → t.run = r →
      Ends s schedule (Party.turn t offer late).1.run) : Ends s schedule r := by
  have moved {n : Nat} (own : (schedule n).side = .client)
      (moves : (schedule n).offer ≠ .interrupted) (here : (s.after schedule n).client.run = r) :
      ∃ m ≥ n, ∃ a, (s.after schedule m).client.run = .inr a := by
    have next : (s.after schedule (n + 1)).client.run =
        ((s.after schedule n).client.turn (schedule n).offer (schedule n).late).1.run := by
      rw [after_succ, turn_client _ own]
      rfl
    obtain ⟨m, after, a, done⟩ := awake _ _ _ moves here (n + 1) next
    exact ⟨m, Nat.le_of_succ_le after, a, done⟩
  intro n here
  obtain ⟨m, later, mine, moves⟩ := fair .client n
  obtain ⟨d, rfl⟩ := Nat.exists_eq_add_of_le later
  induction d generalizing n with
  | zero => exact moved mine moves here
  | succ d ih =>
    by_cases idle : (schedule n).side = .server ∨ (schedule n).offer = .interrupted
    · have kept : (s.after schedule (n + 1)).client.run = r := (client_kept _ idle).trans here
      have shift : n + 1 + d = n + (d + 1) := by omega
      obtain ⟨m, after, a, done⟩ := ih (n + 1) kept (by omega) (by rwa [shift]) (by rwa [shift])
      exact ⟨m, Nat.le_of_succ_le after, a, done⟩
    · have own : (schedule n).side = .client := by
        cases side : (schedule n).side with
        | client => rfl
        | server => exact absurd (.inl side) idle
      exact moved own (fun still => idle (.inr still)) here

theorem reading_ends (fair : Fair schedule) {next : Except IoError (List UInt8) → Program α}
    (continues : ∀ result, Ends s schedule (next result).start) (call : ReadExact) :
    Ends s schedule (.inl (.reading call next)) := by
  induction size : call.need + call.remaining using Nat.strongRecOn generalizing call with
  | _ size ih =>
    apply ends_of_awake fair
    intro t offer late moves here
    have awake (chunk : List UInt8) : offer.read chunk ≠ .interrupted := by
      cases offer with
      | interrupted => exact absurd rfl moves
      | bytes count => simp [Offer.read]
      | wouldBlock => simp [Offer.read]
    unfold Party.turn
    rw [here]
    dsimp only
    rcases call.turn_decreases ⟨offer.read (offer.moved (t.unread.take call.need)),late⟩ (awake _) with
      ⟨result, ended⟩ | ⟨call', more, less⟩
    · rw [ended]
      exact continues result
    · rw [more]
      exact ih _ (size ▸ less) call' rfl

theorem writing_ends (fair : Fair schedule) {next : Except IoError Unit → Program α}
    (continues : ∀ result, Ends s schedule (next result).start) (call : WriteAll) :
    Ends s schedule (.inl (.writing call next)) := by
  induction size : call.left.length + call.remaining using Nat.strongRecOn generalizing call with
  | _ size ih =>
    apply ends_of_awake fair
    intro t offer late moves here
    have awake (chunk : List UInt8) : offer.write chunk ≠ .interrupted := by
      cases offer with
      | interrupted => exact absurd rfl moves
      | bytes count => simp [Offer.write]
      | wouldBlock => simp [Offer.write]
    unfold Party.turn
    rw [here]
    dsimp only
    rcases call.turn_decreases late (awake (offer.moved call.left)) with
      ⟨result, ended⟩ | ⟨call', more, less⟩
    · rw [ended]
      exact continues result
    · rw [more]
      exact ih _ (size ▸ less) call' rfl

theorem program_ends (fair : Fair schedule) (p : Program α) : Ends s schedule p.start := by
  induction p with
  | done a =>
    intro n here
    exact ⟨n, Nat.le_refl n, a, here⟩
  | readExact size timeout next ih =>
    unfold Program.start
    split_ifs
    · exact ih _
    · exact reading_ends fair ih _
  | writeAll bytes timeout next ih =>
    unfold Program.start
    split_ifs
    · exact ih _
    · exact writing_ends fair ih _

/-- A program that has returned stays so. -/
theorem client_done {n m : Nat} {a : α} (done : (s.after schedule n).client.run = .inr a)
    (later : n ≤ m) : (s.after schedule m).client.run = .inr a := by
  induction later with
  | refl => exact done
  | @step m _ ih =>
    rw [after_succ]
    generalize s.after schedule m = t at ih
    obtain ⟨⟨run, unread⟩, server⟩ := t
    obtain rfl : run = .inr a := ih
    unfold turn
    cases (schedule m).side <;> rfl

/-- On every fair schedule both programs return. -/
theorem returns (fair : Fair schedule) (client : Program α) (server : Program β)
    (hc : s.client.run = client.start) (hs : s.server.run = server.start) :
    ∃ n a b, (s.after schedule n).client.run = .inr a ∧ (s.after schedule n).server.run = .inr b := by
  obtain ⟨n, _, a, done⟩ := program_ends (s := s) fair client 0 hc
  obtain ⟨m, _, b, done'⟩ := program_ends (s := s.swap) fair.swap server 0 hs
  have all (k : Nat) : (s.swap.after (fun n => (schedule n).swap) k).client.run =
      (s.after schedule k).server.run := by
    rw [swap_after]
    rfl
  refine ⟨max n m, a, b, client_done done (Nat.le_max_left _ _), ?_⟩
  rw [← all]
  exact client_done done' (Nat.le_max_right _ _)

end Termination

/-- From here on the programs return this, and leave this of what the other sends. -/
def Balanced (s : Duplex α β) (c : α) (clientLeft : List UInt8) (d : β)
    (serverLeft : List UInt8) : Prop :=
  ∃ fromClient fromServer,
    Suspended.outcome s.client.run (s.client.unread ++ fromServer) =
        some ⟨c,clientLeft,fromClient⟩ ∧
      Suspended.outcome s.server.run (s.server.unread ++ fromClient) =
        some ⟨d,serverLeft,fromServer⟩

namespace Balanced

variable {c : α} {d : β} {clientLeft serverLeft : List UInt8}

theorem swap (h : s.Balanced c clientLeft d serverLeft) :
    s.swap.Balanced d serverLeft c clientLeft := by
  obtain ⟨fromClient, fromServer, client, server⟩ := h
  exact ⟨fromServer, fromClient, server, client⟩

theorem clientTurn {offer : Offer} {late : Nat} (h : s.Balanced c clientLeft d serverLeft)
    (onTime : ¬ s.client.Expires offer late) :
    (s.clientTurn offer late).Balanced c clientLeft d serverLeft := by
  obtain ⟨fromClient, fromServer, client, server⟩ := h
  obtain ⟨o, client', same⟩ := Party.turn_outcome client onTime
  obtain ⟨result, unread, written⟩ := o
  obtain ⟨rfl, rfl, rfl⟩ : c = result ∧ clientLeft = unread ∧
      fromClient = (s.client.turn offer late).2 ++ written := by
    simpa [Outcome.behind] using same
  refine ⟨written, fromServer, client', ?_⟩
  change Suspended.outcome s.server.run (s.server.unread ++ _ ++ written) = _
  rw [List.append_assoc]
  exact server

theorem turn {p : Pass} (h : s.Balanced c clientLeft d serverLeft) (onTime : ¬ s.Expires p) :
    (s.turn p).Balanced c clientLeft d serverLeft := by
  obtain ⟨side, offer, late⟩ := p
  cases side with
  | client => exact h.clientTurn onTime
  | server => exact (h.swap.clientTurn onTime).swap

theorem after {n : Nat} (h : s.Balanced c clientLeft d serverLeft) (onTime : s.OnTime schedule n) :
    (s.after schedule n).Balanced c clientLeft d serverLeft := by
  induction n with
  | zero => exact h
  | succ n ih =>
    have before : s.OnTime schedule n := fun m less => onTime m (Nat.lt_succ_of_lt less)
    exact (ih before).turn (onTime n (Nat.lt_succ_self n))

/-- A program that has returned sends nothing more. -/
theorem client_returned {a : α} (h : s.Balanced c clientLeft d serverLeft)
    (done : s.client.run = .inr a) :
    a = c ∧ s.client.unread <+: clientLeft ∧ serverLeft <:+ s.server.unread := by
  obtain ⟨fromClient, fromServer, client, server⟩ := h
  rw [done] at client
  obtain ⟨rfl, rfl, rfl⟩ : a = c ∧ s.client.unread ++ fromServer = clientLeft ∧ [] = fromClient := by
    simpa [Suspended.outcome] using client
  rw [List.append_nil] at server
  exact ⟨rfl, List.prefix_append _ _, Suspended.outcome_suffix server⟩

end Balanced

/-- However the passes fall, both programs return; and unless a deadline expires, they return this,
and leave this unread: one that has returned still gets what it leaves, and the other has not
read what it will leave. -/
structure Settles (s : Duplex α β) (c : α) (clientLeft : List UInt8) (d : β)
    (serverLeft : List UInt8) : Prop where
  returns : ∀ schedule, Fair schedule → ∃ n a b,
    (s.after schedule n).client.run = .inr a ∧ (s.after schedule n).server.run = .inr b
  client : ∀ schedule n a, s.OnTime schedule n → (s.after schedule n).client.run = .inr a →
    a = c ∧ (s.after schedule n).client.unread <+: clientLeft ∧
      serverLeft <:+ (s.after schedule n).server.unread
  server : ∀ schedule n b, s.OnTime schedule n → (s.after schedule n).server.run = .inr b →
    b = d ∧ (s.after schedule n).server.unread <+: serverLeft ∧
      clientLeft <:+ (s.after schedule n).client.unread

/-- When both have returned, they have read all but what they leave. -/
theorem Settles.left {c : α} {d : β} {clientLeft serverLeft : List UInt8} {n : Nat} {a : α} {b : β}
    (h : s.Settles c clientLeft d serverLeft) (onTime : s.OnTime schedule n)
    (client : (s.after schedule n).client.run = .inr a)
    (server : (s.after schedule n).server.run = .inr b) :
    (s.after schedule n).client.unread = clientLeft ∧
      (s.after schedule n).server.unread = serverLeft := by
  obtain ⟨_, front, back⟩ := h.client schedule n a onTime client
  obtain ⟨_, front', back'⟩ := h.server schedule n b onTime server
  exact ⟨front.eq_of_length_le back'.length_le, front'.eq_of_length_le back.length_le⟩

theorem settles_of_balanced {c : α} {d : β} {clientLeft serverLeft : List UInt8}
    {client : Program α} {server : Program β} (hc : s.client.run = client.start)
    (hs : s.server.run = server.start) (h : s.Balanced c clientLeft d serverLeft) :
    s.Settles c clientLeft d serverLeft where
  returns _ fair := returns fair client server hc hs
  client _ _ _ onTime done := (h.after onTime).client_returned done
  server _ _ _ onTime done := (h.after onTime).swap.client_returned done

/-- Two programs that answer each other. -/
theorem new_settles {client : Program α} {server : Program β} {c : Outcome α} {d : Outcome β}
    (hc : client.outcome d.written = some c) (hd : server.outcome c.written = some d) :
    (new client server).Settles c.result c.unread d.result d.unread := by
  apply settles_of_balanced rfl rfl
  refine ⟨c.written, d.written, ?_, ?_⟩
  · exact (Suspended.outcome_start client _).trans hc
  · exact (Suspended.outcome_start server _).trans hd

/-- A program that is sent these bytes, by a peer that takes what it sends. -/
def solo (input : List UInt8) (p : Program α) : Duplex Unit α := ⟨⟨.inr (),[]⟩,⟨p.start,input⟩⟩

theorem solo_settles {input : List UInt8} {p : Program α} {o : Outcome α}
    (h : p.outcome input = some o) : (solo input p).Settles () o.written o.result o.unread := by
  have peer : (solo input p).client.run = (Program.done ()).start := rfl
  have party : (solo input p).server.run = p.start := rfl
  apply settles_of_balanced peer party
  refine ⟨[], o.written, rfl, ?_⟩
  change Suspended.outcome p.start (input ++ []) = _
  rw [List.append_nil, Suspended.outcome_start, h]

end Duplex

end Kesharon.Ipc
