import Kesharon.Host.StreamIdentity

namespace Kesharon.Host

open Framework Ipc Protocol

namespace StreamWorker

variable {w w' : StreamWorker} {a : WorkerAction} {o : WorkerOutput} {n : UInt64}

/-- The number whose successor the worker expects if it goes on: that of a first snapshot, of a
later one, or of the expected event. -/
def counted (w : StreamWorker) : Option UInt64 :=
  match w.location with
  | .subscribed (.ok subscription) => some subscription.initialSnapshot.lastSequence
  | .received (.ok (.snapshot snapshot)) => some snapshot.lastSequence
  | .received (.ok (.event event)) =>
    if event.streamId ≠ w.currentStreamId ∨ event.sequence ≠ w.expectedSequence then none
    else some event.sequence
  | _ => none

theorem expectAfter_limit (location : Location) :
    (w.expectAfter u64Max location).location = .panicked := rfl

theorem expectAfter_below (w : StreamWorker) (location : Location) (below : n ≠ u64Max) :
    (w.expectAfter n location).location = location ∧
      (w.expectAfter n location).expectedSequence.toNat = n.toNat + 1 := by
  have some : checkedSucc n = .some (n + 1) := if_neg below
  have next := (checkedSucc_eq_some.mp some).2
  unfold expectAfter
  rw [some]
  exact ⟨rfl, next⟩

/-- What a check makes of a number. -/
theorem check_counted (h : w.counted = some n) (going : w.cancelled = false)
    (next : w.check = some w') : ∃ v location, location ≠ .panicked ∧ w' = expectAfter v n location := by
  unfold check at next
  unfold counted at h
  cases here : w.location with
  | subscribed result =>
    simp only [here, going] at h next
    cases result with
    | error e => cases h
    | ok subscription =>
      cases h
      exact ⟨_, _, by simp, (Option.some.inj next).symm⟩
  | received result =>
    simp only [here, going] at h next
    cases result with
    | error e => cases h
    | ok message =>
      cases message with
      | snapshot snapshot =>
        cases h
        exact ⟨_, _, by simp, (Option.some.inj next).symm⟩
      | event event =>
        have next : w.handle (.ok (.event event)) = w' := Option.some.inj next
        dsimp only at h
        unfold handle at next
        dsimp only at next
        split_ifs at h next with foreign
        cases h
        exact ⟨_, _, by simp, next.symm⟩
  | _ => simp [here] at h

theorem disconnect_not_panicked : w.disconnect.location ≠ .panicked := by
  unfold disconnect
  split_ifs
  · exact Location.noConfusion
  · exact Location.noConfusion

/-- A check that counts nothing, or finds the worker cancelled, does not panic. -/
theorem check_not_panicked (uncounted : w.cancelled = true ∨ w.counted = none)
    (next : w.check = some w') : w'.location ≠ .panicked := by
  unfold check at next
  unfold counted at uncounted
  cases here : w.location with
  | connectCheck | sleepCheck | loopCheck | readCheck | subscribeCheck =>
    simp only [here, Option.some.injEq] at next
    rw [← next]
    cases w.cancelled <;> exact Location.noConfusion
  | subscribed result =>
    simp only [here] at uncounted next
    split_ifs at next with cancelled
    · obtain rfl := Option.some.inj next
      exact Location.noConfusion
    · cases result with
      | ok subscription => simp [cancelled] at uncounted
      | error e =>
        obtain rfl := Option.some.inj next
        exact disconnect_not_panicked
  | received result =>
    simp only [here] at uncounted next
    split_ifs at next with cancelled
    · obtain rfl := Option.some.inj next
      exact Location.noConfusion
    · obtain rfl := Option.some.inj next
      cases result with
      | error e =>
        simp only [handle]
        split_ifs <;> exact Location.noConfusion
      | ok message =>
        cases message with
        | snapshot snapshot => simp [cancelled] at uncounted
        | event event =>
          have foreign := uncounted.resolve_left cancelled
          dsimp only at foreign
          split_ifs at foreign with other
          simp only [handle]
          rw [if_pos other]
          exact Location.noConfusion
  | _ => simp [here] at next

/-- A step that panics is a check that counts the last number. -/
theorem step_panicked_iff (hs : w.step a = some (w', o)) : w'.location = .panicked ↔
    w.location = .panicked ∨ a = .check ∧ w.cancelled = false ∧ w.counted = some u64Max := by
  cases step_moves hs with
  | cancelled => simp
  | checked next =>
    have apart : w.location ≠ .panicked := by
      intro here
      simp [check, here] at next
    by_cases uncounted : w.cancelled = true ∨ w.counted = none
    · have fine := check_not_panicked uncounted next
      rcases uncounted with cancelled | none
      · simp [fine, apart, cancelled]
      · simp [fine, apart, none]
    · rw [not_or, Bool.not_eq_true] at uncounted
      obtain ⟨n, counted⟩ := Option.ne_none_iff_exists'.mp uncounted.2
      obtain ⟨v, location, goes, rfl⟩ := check_counted counted uncounted.1 next
      by_cases limit : n = u64Max
      · rw [limit] at counted ⊢
        simp [expectAfter_limit, uncounted.1, counted]
      · have below := (expectAfter_below v location limit).1
        simp [below, goes, apart, counted, limit]
  | sent delivered next =>
    unfold send at next
    cases here : w.location with
    | reconnecting | lost | announcing | forwarding =>
      simp only [here, Option.some.injEq, Prod.mk.injEq] at next
      rw [← next.1]
      cases delivered <;> simp [goTo]
    | _ => simp [here] at next
  | clientMissing here => simp [here, disconnect_not_panicked]
  | clientRechecked here present => cases present <;> simp [here, goTo]
  | healthReturned here ok => cases ok <;> simp [here, goTo]
  | clientFound here | subscribeReturned here | woke here | readReturned here => simp [here, goTo]

end StreamWorker

section Runs

variable {client : DaemonClient} {s t t' : HostStream} {a : StreamAction} {o : StreamOutput}
variable {tr : List (StreamAction × StreamOutput)}

theorem HostStream.step_panicked_iff (hs : t.step client a = some (t', o)) :
    t'.worker.location = .panicked ↔ t.worker.location = .panicked ∨
      a = .worker .check ∧ t.worker.cancelled = false ∧ t.worker.counted = some u64Max := by
  cases step_moves hs with
  | @worker action w out reads subscribes refused step =>
    have panics := StreamWorker.step_panicked_iff step
    rw [StreamAction.worker.injEq]
    exact panics
  | subscribed call met done step =>
    have panics := StreamWorker.step_panicked_iff step
    simpa using panics
  | read call met done step =>
    have panics := StreamWorker.step_panicked_iff step
    simpa using panics
  | connected | began | subscribing | reading | wrote | arrived | closed => simp

/-- A worker whose run has not panicked has not counted the last number in any check. -/
theorem run_panicked_iff {ok : HostStream → StreamAction → HostStream → Prop}
    (run : (hostStream client).Run ok .new tr s) :
    s.worker.location ≠ .panicked ↔ ∀ tr₁ o tr₂ t, tr = tr₁ ++ (.worker .check, o) :: tr₂ →
      (hostStream client).Run ok .new tr₁ t → t.worker.cancelled = false →
        t.worker.counted ≠ some u64Max := by
  induction run with
  | nil =>
    constructor
    · intro _ tr₁ o tr₂ t cut
      simp at cut
    · intro _
      exact Location.noConfusion
  | @snoc t u tr a o before allowed hs ih =>
    have panics := HostStream.step_panicked_iff hs
    rw [Ne, panics, not_or, ← Ne, ih]
    constructor
    · rintro ⟨fine, last⟩ tr₁ o' tr₂ v cut upTo going limit
      rcases split_snoc cut with ⟨tr₂', earlier⟩ | ⟨rfl, same⟩
      · exact fine tr₁ o' tr₂' v earlier upTo going limit
      · obtain ⟨_, rfl⟩ := upTo.unique before rfl
        cases same
        exact last ⟨rfl, going, limit⟩
    · intro fine
      refine ⟨?_, ?_⟩
      · rintro tr₁ o' tr₂ v rfl upTo
        exact fine tr₁ o' (tr₂ ++ [(a, o)]) v (by simp) upTo
      · rintro ⟨rfl, going, limit⟩
        exact fine tr o [] t rfl before going limit

/-- Against any frames a worker neither panics nor expects a number that is not the next one, in
a run in which it counts no number that is the last of its type, and only in such a run. -/
theorem next_sequence_iff (client : DaemonClient) {tr : List (StreamAction × StreamOutput)}
    {s : HostStream} (run : (hostStream client).Run Machine.anyStep .new tr s) :
    (s.worker.location ≠ .panicked ∧ ∀ tr₁ o tr₂ t t' n, tr = tr₁ ++ (.worker .check, o) :: tr₂ →
      (hostStream client).Run Machine.anyStep .new tr₁ t →
      (hostStream client).step t (.worker .check) = some (t', o) → t.worker.cancelled = false →
      t.worker.counted = some n → t'.worker.expectedSequence.toNat = n.toNat + 1) ↔
    ∀ tr₁ o tr₂ t, tr = tr₁ ++ (.worker .check, o) :: tr₂ →
      (hostStream client).Run Machine.anyStep .new tr₁ t → t.worker.cancelled = false →
        t.worker.counted ≠ some u64Max := by
  constructor
  · rintro ⟨fine, -⟩
    exact (run_panicked_iff run).mp fine
  · intro below
    refine ⟨(run_panicked_iff run).mpr below, ?_⟩
    intro tr₁ o tr₂ t t' n cut before hs going counted
    have under : n ≠ u64Max := by
      rintro rfl
      exact below tr₁ o tr₂ t cut before going counted
    have moved : HostStream.Moves client t (.worker .check) t' o := HostStream.step_moves hs
    cases moved with
    | worker reads subscribes refused step =>
      have checked : t.worker.Moves .check _ _ := StreamWorker.step_moves step
      cases checked with
      | checked next =>
        obtain ⟨v, location, _, same⟩ := StreamWorker.check_counted counted going next
        have expects := (StreamWorker.expectAfter_below v location under).2
        rw [← same] at expects
        exact expects

end Runs

/-- The numbers of the first snapshot and of the event behind it have successors. -/
theorem next_sequence_iff_first :
    ∃ tr s, (hostStream firstClient).Run Machine.anyStep .new tr s ∧
      sentUpdates (workerSteps tr) = [.message firstSnapshot,.message firstEvent] ∧
      ∀ tr₁ o tr₂ t t' n, tr = tr₁ ++ (.worker .check, o) :: tr₂ →
        (hostStream firstClient).Run Machine.anyStep .new tr₁ t →
        (hostStream firstClient).step t (.worker .check) = some (t', o) →
        t.worker.cancelled = false → t.worker.counted = some n →
        t'.worker.expectedSequence.toNat = n.toNat + 1 := by
  have run := Machine.run_of_exec_isSome (hostStream firstClient) Machine.anyStep .new
    (eventBehind firstSnapshotText) (by decide +kernel)
  have below := (run_panicked_iff run).mp (by decide +kernel)
  exact ⟨_, _, run, by decide +kernel, ((next_sequence_iff firstClient run).mpr below).2⟩

/-- A snapshot with the last number there is. -/
def limitSnapshot : StreamMessage := .snapshot ⟨"s",u64Max,none,[]⟩

def limitSnapshotText : String :=
  "\x7b\"messageType\":\"snapshot\",\"snapshot\":\x7b\"streamId\":\"s\"," ++
    "\"lastSequence\":18446744073709551615,\"project\":null,\"activeOperations\":[]\x7d\x7d"

def limitClient : DaemonClient where
  responses := .ofTexts [(firstReady, firstReadyText)]
  messages := .ofTexts [(limitSnapshot, limitSnapshotText)]
  ioTimeout := 2000

/-- A worker subscribes, and checks its flag behind the snapshot. -/
def subscribingLimit : List StreamAction :=
  [.worker .check, .worker (.client true), .worker .check, .connect,
    .write (utf8 firstReadyText), .write (utf8 limitSnapshotText), .arrive 400,
    .turn (.bytes 4) 0, .turn (.bytes 200) 0, .turn (.bytes 4) 0, .turn (.bytes 200) 0,
    .worker .check]

/-- The worker panics behind a snapshot that `subscribe` accepts. -/
theorem limit_snapshot_panics :
    ∃ tr s, (hostStream limitClient).Run Machine.anyStep .new tr s ∧
      tr.map Prod.fst = subscribingLimit ∧
      (tr.map fun p => p.2.returned).contains
        (some (.subscribeReturns (.ok ⟨"s",⟨"s",u64Max,none,[]⟩⟩))) ∧
      s.worker.location = .panicked ∧ sentUpdates (workerSteps tr) = [] := by
  have run := Machine.run_of_exec_isSome (hostStream limitClient) Machine.anyStep .new
    subscribingLimit (by decide +kernel)
  exact ⟨_, _, run, by decide +kernel, by decide +kernel, by decide +kernel, by decide +kernel⟩

end Kesharon.Host
