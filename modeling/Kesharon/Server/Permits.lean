import Kesharon.Server.Pool

namespace Kesharon.Server

open Framework Application Kesharon.Daemon Ipc Protocol

theorem fetchSub_of_pos {active : Nat} (positive : 0 < active) (small : active < 2^64) :
    fetchSub active + 1 = active := by
  unfold fetchSub
  omega

/-- The permits change with the one of the worker that is replaced. -/
theorem permits_set {workers : List Worker} {j : Nat} {v w : Worker}
    (here : workers[j]? = some v) :
    (workers.set j w).countP (fun w => w.permit) + v.permit.toNat =
      workers.countP (fun w => w.permit) + w.permit.toNat := by
  obtain ⟨known, same⟩ := List.getElem?_eq_some_iff.mp here
  have among := List.boole_getElem_le_countP (p := fun w : Worker => w.permit) known
  rw [List.countP_set known]
  rw [same] at among ⊢
  cases hv : v.permit <;> cases hw : w.permit <;>
    simp only [hv, Bool.false_eq_true, if_false, if_true, Bool.toNat_true, Bool.toNat_false]
      at among ⊢ <;>
    omega

def PoolAction.accepts : PoolAction → Bool
  | .accept => true
  | _ => false

/-- The action drops a permit. -/
def PoolAction.drops : PoolAction → Bool
  | .dropUnspawned | .dropPermit _ => true
  | _ => false

/-- The action drops the permit of a connection that no thread could be spawned for. -/
def PoolAction.releases : PoolAction → Bool
  | .dropUnspawned => true
  | _ => false

theorem releases_of_drops {a : PoolAction} (other : a.drops = false) : a.releases = false := by
  cases a with
  | dropUnspawned => exact other
  | _ => rfl

/-- The permits of the accept loop that are about to be dropped. -/
def Accepting.unspawned : Accepting → Nat
  | .dropping => 1
  | _ => 0

namespace Pool

variable {σ : Type} [StateRepository σ] {responses : SerdeJson ServerResponse}
variable {messages : SerdeJson StreamMessage} {streamId : String}
variable {s s' : Pool σ} {a : PoolAction} {o : PoolOutput}

/-- The steps of the accept loop, of a worker's thread, and of other threads in the session. -/
inductive Moves (streamId : String) (s : Pool σ) : PoolAction → Pool σ → PoolOutput → Prop where
  | accepts (here : s.accepting = .listening) :
      Moves streamId s .accept { s with accepting := .loading } {}
  | fails {a : PoolAction} (other : a.accepts = false ∧ a.drops = false)
      (here : s.accepting = .listening ∨ s.accepting = .rejecting)
      (accepting : Accepting) (next : accepting = .listening ∨ accepting = .ended) :
      Moves streamId s a { s with accepting := accepting } {}
  | sees {a : PoolAction} (other : a.accepts = false ∧ a.drops = false)
      (here : s.accepting = .loading ∨ ∃ active, s.accepting = .exchanging active) :
      Moves streamId s a s.update.1 s.update.2
  | acquires {a : PoolAction} (other : a.accepts = false ∧ a.drops = false)
      (here : s.accepting = .exchanging s.activeConnections) :
      Moves streamId s a
        { s with activeConnections := s.activeConnections + 1, accepting := .spawning } {}
  | spawns (here : s.accepting = .spawning) :
      Moves streamId s (.spawn true)
        { s with accepting := .listening, workers := s.workers ++ [⟨true,.accepted,.new⟩] }
        { fate := some (.served s.workers.length) }
  | spawnFails (here : s.accepting = .spawning) :
      Moves streamId s (.spawn false) { s with accepting := .dropping } { fate := some .unspawned }
  | dropsUnspawned (here : s.accepting = .dropping) :
      Moves streamId s .dropUnspawned
        { s with activeConnections := fetchSub s.activeConnections, accepting := .listening } {}
  | works {a : PoolAction} {o : Output} (other : a.accepts = false ∧ a.drops = false) (j : Nat)
      (w : Worker) (c : Connection σ) (here : s.workers[j]? = some w)
      (returned : w.serving.returned = true → c.serving.returned = true)
      (left : c.serving ≠ .accepted) (thread : Connection.Thread streamId (s.connection w) c o) :
      Moves streamId s a (s.served j w c) { session := o }
  | dropsPermit (j : Nat) (w : Worker) (here : s.workers[j]? = some w) (permit : w.permit = true)
      (returned : w.serving.returned = true) :
      Moves streamId s (.dropPermit j)
        { s with
          activeConnections := fetchSub s.activeConnections
          workers := s.workers.set j { w with permit := false } } {}
  | session {action : Action} {w : World σ} {out : Output} (shares : sharesSession action = true)
      (step : s.session.step streamId action = some (w, out)) :
      Moves streamId s (.session action) { s with session := w } { session := out }

theorem step_moves (h : s.step responses messages streamId a = some (s', o)) :
    Moves streamId s a s' o := by
  cases a with
  | accept =>
    simp only [step] at h
    split_ifs at h with here
    obtain ⟨rfl, rfl⟩ := Prod.mk.inj (Option.some.inj h)
    exact .accepts here
  | acceptFails error =>
    simp only [step] at h
    by_cases here : s.accepting = .listening
    · rw [if_pos here] at h
      obtain ⟨same, rfl⟩ := Prod.mk.inj (Option.some.inj h)
      split_ifs at same
      · subst same
        have kept : { s with accepting := .listening } = s := by rw [← here]
        have fails := @Moves.fails σ _ streamId s (.acceptFails error) ⟨rfl, rfl⟩ (.inl here)
          .listening (.inl rfl)
        rwa [kept] at fails
      · subst same
        exact .fails ⟨rfl, rfl⟩ (.inl here) .ended (.inr rfl)
    · rw [if_neg here] at h
      cases h
  | load =>
    simp only [step] at h
    split_ifs at h with here
    have seen := Option.some.inj h
    have sees := @Moves.sees σ _ streamId s .load ⟨rfl, rfl⟩ (.inl here)
    rwa [seen] at sees
  | exchange spurious =>
    simp only [step] at h
    cases here : s.accepting with
    | exchanging active =>
      simp only [here] at h
      by_cases same : s.activeConnections = active ∧ spurious = false
      · rw [if_pos same] at h
        obtain ⟨rfl, rfl⟩ := Prod.mk.inj (Option.some.inj h)
        rw [← same.1] at here ⊢
        exact .acquires ⟨rfl, rfl⟩ here
      · rw [if_neg same] at h
        have seen := Option.some.inj h
        have sees := @Moves.sees σ _ streamId s (.exchange spurious) ⟨rfl, rfl⟩
          (.inr ⟨active, here⟩)
        rwa [seen] at sees
    | _ => simp [here] at h
  | spawn spawned =>
    simp only [step] at h
    by_cases here : s.accepting = .spawning
    · rw [if_pos here] at h
      cases spawned with
      | true =>
        obtain ⟨rfl, rfl⟩ := Prod.mk.inj (Option.some.inj h)
        exact .spawns here
      | false =>
        obtain ⟨rfl, rfl⟩ := Prod.mk.inj (Option.some.inj h)
        exact .spawnFails here
    · rw [if_neg here] at h
      cases h
  | dropUnspawned =>
    simp only [step] at h
    split_ifs at h with here
    obtain ⟨rfl, rfl⟩ := Prod.mk.inj (Option.some.inj h)
    exact .dropsUnspawned here
  | rejected =>
    simp only [step] at h
    split_ifs at h with here
    obtain ⟨rfl, rfl⟩ := Prod.mk.inj (Option.some.inj h)
    exact .fails ⟨rfl, rfl⟩ (.inr here) .listening (.inl rfl)
  | acceptPanics =>
    simp only [step] at h
    split_ifs at h with here
    obtain ⟨rfl, rfl⟩ := Prod.mk.inj (Option.some.inj h)
    exact .fails ⟨rfl, rfl⟩ here.symm .ended (.inr rfl)
  | respond j response =>
    simp only [step] at h
    cases here : s.workers[j]? with
    | none => simp [here] at h
    | some w =>
      simp only [here] at h
      split_ifs at h with accepted
      obtain ⟨rfl, rfl⟩ := Prod.mk.inj (Option.some.inj h)
      refine .works ⟨rfl, rfl⟩ j w _ here ?_ (Connection.respond_left _ _ _)
        (Connection.respond_thread response accepted)
      rw [accepted]
      intro returned
      cases returned
  | serve j action =>
    simp only [step] at h
    cases here : s.workers[j]? with
    | none => simp [here] at h
    | some w =>
      simp only [here] at h
      split_ifs at h with allowed
      obtain ⟨⟨c, out⟩, stepped, same⟩ := Option.map_eq_some_iff.mp h
      obtain ⟨rfl, rfl⟩ := Prod.mk.inj same
      exact .works ⟨rfl, rfl⟩ j w c here (Connection.step_returned stepped)
        (Connection.step_left stepped) (Connection.step_thread stepped)
  | panic j written =>
    simp only [step] at h
    cases here : s.workers[j]? with
    | none => simp [here] at h
    | some w =>
      simp only [here] at h
      split_ifs at h with running
      obtain ⟨rfl, rfl⟩ := Prod.mk.inj (Option.some.inj h)
      refine .works ⟨rfl, rfl⟩ j w ⟨s.session,.returning w.serving.channel written,w.wire⟩ here ?_
        (by simp) (.still rfl rfl ⟨rfl, rfl⟩ (.inr (Nat.le_add_right _ _)))
      intro returned
      cases serving : w.serving <;>
        simp [serving, Serving.running, Serving.returned] at running returned
  | dropPermit j =>
    simp only [step] at h
    cases here : s.workers[j]? with
    | none => simp [here] at h
    | some w =>
      simp only [here] at h
      split_ifs at h with holds
      obtain ⟨rfl, rfl⟩ := Prod.mk.inj (Option.some.inj h)
      exact .dropsPermit j w here holds.1 holds.2
  | session action =>
    simp only [step] at h
    split_ifs at h with shares
    obtain ⟨⟨w, out⟩, stepped, same⟩ := Option.map_eq_some_iff.mp h
    obtain ⟨rfl, rfl⟩ := Prod.mk.inj same
    exact .session shares stepped

/-- The counter counts the permits, there are at most eight, and a thread keeps its own until it
has returned. -/
structure Counted (s : Pool σ) : Prop where
  counter : s.activeConnections = s.livePermits
  bounded : s.activeConnections ≤ MAX_ACTIVE_CONNECTIONS
  exchanging : ∀ active, s.accepting = .exchanging active → active < MAX_ACTIVE_CONNECTIONS
  holds : ∀ (j : Nat) w, s.workers[j]? = some w → w.permit = false → w.serving.returned = true

omit [StateRepository σ] in
theorem holds_set {j : Nat} {w : Worker}
    (h : ∀ (i : Nat) v, s.workers[i]? = some v → v.permit = false → v.serving.returned = true)
    (own : w.permit = false → w.serving.returned = true) (i : Nat) (v : Worker)
    (here : (s.workers.set j w)[i]? = some v) (dropped : v.permit = false) :
    v.serving.returned = true := by
  rw [List.getElem?_set] at here
  split_ifs at here with same known
  · obtain rfl := Option.some.inj here
    exact own dropped
  · exact h i v here dropped

omit [StateRepository σ] in
theorem Counted.drop {active : Nat} (counter : s.activeConnections = active + 1)
    (bounded : s.activeConnections ≤ MAX_ACTIVE_CONNECTIONS) :
    fetchSub s.activeConnections = active := by
  have small : s.activeConnections ≤ 8 := bounded
  have less := @fetchSub_of_pos s.activeConnections (by omega) (by omega)
  omega

theorem Counted.step (h : Counted s) (moves : Moves streamId s a s' o) : Counted s' := by
  have counter := h.counter
  have bounded := h.bounded
  unfold livePermits at counter
  cases moves with
  | accepts here =>
    rw [here] at counter
    exact ⟨counter, bounded, fun active h => (by cases h), h.holds⟩
  | fails other here accepting next =>
    refine ⟨?_, bounded, ?_, h.holds⟩
    · change s.activeConnections = _ + accepting.permits
      rw [counter]
      rcases here with here | here <;> rcases next with next | next <;> rw [here, next] <;> rfl
    · intro active exchanging
      change accepting = _ at exchanging
      rcases next with next | next <;> rw [next] at exchanging <;> cases exchanging
  | sees other here =>
    have none : s.accepting.permits = 0 := by
      rcases here with here | ⟨active, here⟩ <;> rw [here] <;> rfl
    rw [none] at counter
    unfold update
    split_ifs with room
    · refine ⟨counter, bounded, ?_, h.holds⟩
      intro active exchanging
      cases exchanging
      exact room
    · refine ⟨counter, bounded, ?_, h.holds⟩
      intro active exchanging
      cases exchanging
  | acquires other here =>
    rw [here] at counter
    refine ⟨congrArg (· + 1) counter, h.exchanging _ here, ?_, h.holds⟩
    intro active exchanging
    cases exchanging
  | spawns here =>
    rw [here] at counter
    refine ⟨?_, bounded, ?_, ?_⟩
    · unfold livePermits
      rw [List.countP_append]
      exact counter
    · intro active exchanging
      cases exchanging
    · intro j w found dropped
      rw [List.getElem?_append] at found
      split_ifs at found
      · exact h.holds j w found dropped
      · obtain ⟨_, rfl⟩ := List.mem_singleton.mp (List.mem_of_getElem? found)
        cases dropped
  | spawnFails here =>
    rw [here] at counter
    refine ⟨counter, bounded, ?_, h.holds⟩
    intro active exchanging
    cases exchanging
  | dropsUnspawned here =>
    rw [here] at counter
    refine ⟨Counted.drop counter bounded, ?_, ?_, h.holds⟩
    · have less := Counted.drop counter bounded
      change fetchSub s.activeConnections ≤ _
      change s.activeConnections = _ + 1 at counter
      omega
    · intro active exchanging
      cases exchanging
  | works other j w c here returned left thread =>
    have permits := @permits_set s.workers j w { w with serving := c.serving, wire := c.wire } here
    refine ⟨?_, bounded, h.exchanging, ?_⟩
    · unfold livePermits served
      dsimp only at permits ⊢
      omega
    · apply holds_set h.holds
      intro dropped
      exact returned (h.holds j w here dropped)
  | dropsPermit j w here permit returned =>
    have permits := @permits_set s.workers j w { w with permit := false } here
    have dropped : s.activeConnections =
        (s.workers.set j { w with permit := false }).countP (fun w => w.permit) +
          s.accepting.permits + 1 := by
      rw [permit] at permits
      simp only [Bool.toNat_true, Bool.toNat_false] at permits
      omega
    refine ⟨Counted.drop dropped bounded, ?_, h.exchanging, holds_set h.holds fun _ => returned⟩
    have less := Counted.drop dropped bounded
    change fetchSub s.activeConnections ≤ _
    omega
  | session shares step => exact ⟨counter, bounded, h.exchanging, h.holds⟩

end Pool

/-- How many connections have been accepted. -/
def accepted (tr : List (PoolAction × PoolOutput)) : Nat := tr.countP fun p => p.1.accepts

def fates (tr : List (PoolAction × PoolOutput)) : List Fate := tr.filterMap fun p => p.2.fate

/-- How many permits of unspawned threads have been dropped. -/
def released (tr : List (PoolAction × PoolOutput)) : Nat := tr.countP fun p => p.1.releases

/-- Every accepted connection has one fate, but the one in hand, every thread serves one, and the
permit of one without a thread is dropped before the next is accepted. -/
structure Accounted {σ : Type} (tr : List (PoolAction × PoolOutput)) (s : Pool σ) : Prop where
  accepted : accepted tr = (fates tr).length + s.accepting.pending
  served : (fates tr).filter Fate.isServed = (List.range s.workers.length).map Fate.served
  unspawned : (fates tr).count .unspawned = released tr + s.accepting.unspawned

section Runs

variable {σ : Type} [StateRepository σ] {streamId : String}
variable {s s' : Pool σ} {a : PoolAction} {o : PoolOutput} {tr : List (PoolAction × PoolOutput)}

theorem accepted_concat : accepted (tr ++ [(a, o)]) = accepted tr + a.accepts.toNat := by
  simp only [accepted, List.countP_append, List.countP_singleton]
  cases a.accepts <;> rfl

theorem released_concat : released (tr ++ [(a, o)]) = released tr + a.releases.toNat := by
  simp only [released, List.countP_append, List.countP_singleton]
  cases a.releases <;> rfl

theorem fates_concat : fates (tr ++ [(a, o)]) = fates tr ++ o.fate.toList := by
  simp only [fates, List.filterMap_append]
  cases fate : o.fate <;> simp [fate]

/-- A step takes a connection in hand, or decides on the fate of the one that is. -/
theorem moves_fate (moves : s.Moves streamId a s' o) :
    a.accepts.toNat + s.accepting.pending = o.fate.toList.length + s'.accepting.pending := by
  cases moves with
  | accepts here =>
    rw [here]
    rfl
  | fails other here accepting next =>
    rw [other.1]
    rcases here with here | here <;> rcases next with next | next <;> rw [here, next] <;> rfl
  | sees other here =>
    have one : s.accepting.pending = 1 := by
      rcases here with here | ⟨active, here⟩ <;> rw [here] <;> rfl
    rw [other.1, one]
    unfold Pool.update
    split_ifs <;> rfl
  | acquires other here =>
    rw [other.1, here]
    rfl
  | spawns here | spawnFails here | dropsUnspawned here =>
    rw [here]
    rfl
  | works other j w c here returned left thread =>
    rw [other.1]
    rfl
  | dropsPermit | session => rfl

theorem moves_served (moves : s.Moves streamId a s' o) :
    (o.fate.toList.filter Fate.isServed = [] ∧ s'.workers.length = s.workers.length) ∨
      (o.fate = some (.served s.workers.length) ∧ s'.workers.length = s.workers.length + 1) := by
  cases moves with
  | accepts | fails | acquires | spawnFails | dropsUnspawned | session => exact .inl ⟨rfl, rfl⟩
  | sees other here =>
    unfold Pool.update
    split_ifs <;> exact .inl ⟨rfl, rfl⟩
  | spawns here => exact .inr ⟨rfl, List.length_append⟩
  | works other j w c here returned left thread => exact .inl ⟨rfl, List.length_set⟩
  | dropsPermit j w here permit returned => exact .inl ⟨rfl, List.length_set⟩

theorem moves_unspawned (moves : s.Moves streamId a s' o) :
    o.fate.toList.count .unspawned + s.accepting.unspawned =
      a.releases.toNat + s'.accepting.unspawned := by
  cases moves with
  | accepts here | spawns here | spawnFails here | dropsUnspawned here =>
    rw [here]
    rfl
  | fails other here accepting next =>
    rw [releases_of_drops other.2]
    rcases here with here | here <;> rcases next with next | next <;> rw [here, next] <;> rfl
  | sees other here =>
    have none : s.accepting.unspawned = 0 := by
      rcases here with here | ⟨active, here⟩ <;> rw [here] <;> rfl
    rw [releases_of_drops other.2, none]
    unfold Pool.update
    split_ifs <;> rfl
  | acquires other here =>
    rw [releases_of_drops other.2, here]
    rfl
  | works other j w c here returned left thread =>
    rw [releases_of_drops other.2]
    rfl
  | dropsPermit | session => rfl

theorem Accounted.step (h : Accounted tr s) (moves : s.Moves streamId a s' o) :
    Accounted (tr ++ [(a, o)]) s' := by
  have count := h.accepted
  have threads := h.served
  have permits := h.unspawned
  refine ⟨?_, ?_, ?_⟩
  · have fate := moves_fate moves
    rw [accepted_concat, fates_concat, List.length_append]
    omega
  · rw [fates_concat, List.filter_append, threads]
    rcases moves_served moves with ⟨none, same⟩ | ⟨one, more⟩
    · rw [none, same, List.append_nil]
    · rw [one, more, List.range_succ, List.map_append]
      rfl
  · have drop := moves_unspawned moves
    rw [fates_concat, List.count_append, released_concat]
    omega

/-- A connection finds no permit only if there are eight. -/
theorem moves_busy (counted : s.Counted) (moves : s.Moves streamId a s' o)
    (busy : o.fate = some .busy) : s.livePermits = MAX_ACTIVE_CONNECTIONS := by
  cases moves with
  | sees other here =>
    unfold Pool.update at busy
    split_ifs at busy with room
    have counter := counted.counter
    have bounded := counted.bounded
    omega
  | _ => cases busy

/-- A permit is taken from a counter that counts it. -/
theorem moves_drop (counted : s.Counted) (moves : s.Moves streamId a s' o)
    (drops : a.drops = true) :
    s'.activeConnections + 1 = s.activeConnections := by
  have counter := counted.counter
  have bounded := counted.bounded
  unfold Pool.livePermits at counter
  have less {active : Nat} (same : s.activeConnections = active + 1) :
      fetchSub s.activeConnections + 1 = s.activeConnections := by
    rw [Pool.Counted.drop same bounded, same]
  cases moves with
  | dropsUnspawned here =>
    rw [here] at counter
    exact less counter
  | dropsPermit j w here permit returned =>
    have permits := @permits_set s.workers j w { w with permit := false } here
    rw [permit] at permits
    simp only [Bool.toNat_true, Bool.toNat_false] at permits
    apply @less (s.activeConnections - 1)
    omega
  | fails other | sees other | acquires other | works other =>
    rw [other.2] at drops
    cases drops
  | accepts | spawns | spawnFails | session => cases drops

end Runs

end Kesharon.Server
