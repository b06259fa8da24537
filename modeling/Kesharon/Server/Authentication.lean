import Kesharon.Server.Runtime

namespace Kesharon.Server

open Framework Ipc Protocol

section Panics

variable {daemon : Daemon}

/-- A schedule of reads that brings a whole request, with a token that is cut inside a
character. -/
def BringsSplitToken (timeout : Nat) (turns : List Turn) : Prop :=
  ∃ token frame, (receiveRequest timeout).run turns = .inr (.ok (token, frame)) ∧
    LaunchToken.SplitsChar token

theorem authenticate_panics_iff (received : Except DaemonError (String × List UInt8)) :
    (∃ panic, daemon.authenticate received = .error panic) ↔
      ∃ token frame, received = .ok (token, frame) ∧ LaunchToken.SplitsChar token := by
  cases received with
  | error error => simp [Daemon.authenticate]
  | ok pair =>
    obtain ⟨token, frame⟩ := pair
    have panics := LaunchToken.matchesHex_panics_iff daemon.launchToken token
    cases matching : daemon.launchToken.matchesHex token with
    | error panic =>
      rw [matching] at panics
      simpa [Daemon.authenticate, matching] using panics
    | ok answer =>
      rw [matching] at panics
      cases answer <;> simpa [Daemon.authenticate, matching] using panics

theorem run_readAuthenticatedRequest {timeout : Nat} {turns : List Turn} {read : RequestRead} :
    (daemon.readAuthenticatedRequest timeout).run turns = .inr read ↔
      ∃ received, (receiveRequest timeout).run turns = .inr received ∧
        daemon.authenticate received = read := by
  unfold Daemon.readAuthenticatedRequest
  rw [Reads.run_map]
  cases (receiveRequest timeout).run turns <;> simp

/-- A read of a request that ends in a panic. -/
theorem read_panics_iff {timeout : Nat} {turns : List Turn} {read : RequestRead}
    (done : (daemon.readAuthenticatedRequest timeout).run turns = .inr read) :
    (∃ panic, read = .error panic) ↔ BringsSplitToken timeout turns := by
  obtain ⟨received, hreceived, rfl⟩ := run_readAuthenticatedRequest.mp done
  rw [authenticate_panics_iff]
  unfold BringsSplitToken
  rw [hreceived]
  simp

/-- A read of a request returns on every schedule, or else panics on a token that is brought. -/
theorem read_returns_iff {timeout : Nat} {schedule : Nat → Turn} (fair : Fair schedule) :
    (∃ n read, (daemon.readAuthenticatedRequest timeout).run ((List.range n).map schedule) =
        .inr (.ok read)) ↔
      ¬ ∃ n, BringsSplitToken timeout ((List.range n).map schedule) := by
  obtain ⟨n, read, done⟩ := (daemon.readAuthenticatedRequest timeout).returns fair
  have panics := read_panics_iff done
  constructor
  · rintro ⟨m, request, returned⟩ ⟨k, token, frame, received, splits⟩
    have panicked : (daemon.readAuthenticatedRequest timeout).run ((List.range k).map schedule) =
        .inr (daemon.authenticate (.ok (token, frame))) :=
      run_readAuthenticatedRequest.mpr ⟨_, received, rfl⟩
    have same := Reads.run_unique returned panicked
    obtain ⟨panic, hpanic⟩ := (authenticate_panics_iff (.ok (token, frame))).mpr
      ⟨token, frame, rfl, splits⟩
    rw [hpanic] at same
    cases same
  · intro never
    cases read with
    | ok request => exact ⟨n, request, done⟩
    | error panic => exact absurd ⟨n, panics.mp ⟨panic, rfl⟩⟩ never

/-- One step: the accept loop panics on a split token on the busy path only, a worker on its own. -/
theorem step_panics {s s' : ServerRuntime} {a : RuntimeAction} {o : Option RequestRead}
    (hs : s.step daemon a = some (s', o)) :
    ((∃ panic, s'.acceptLoop = .panicked panic) ↔
      ∃ turns, a = .acceptBusy turns ∧ BringsSplitToken CONNECTION_TIMEOUT turns) ∧
    ∀ turns, a = .workerReads turns →
      ((∃ panic, o = some (.error panic)) ↔ BringsSplitToken CONNECTION_TIMEOUT turns) := by
  obtain ⟨running, moves⟩ := ServerRuntime.step_moves hs
  cases moves with
  | acceptTimedOut | accepted | spawnFailed | workerEnded => simp [running]
  | acceptFailed => simp
  | busy full done =>
    have panics := read_panics_iff done
    refine ⟨?_, fun turns other => absurd other (by simp)⟩
    rename_i turns read
    cases read with
    | error panic =>
      have splits := panics.mp ⟨panic, rfl⟩
      exact ⟨fun _ => ⟨turns, rfl, splits⟩, fun _ => ⟨panic, rfl⟩⟩
    | ok request =>
      constructor
      · rintro ⟨panic, crashed⟩
        have crashed : s.acceptLoop = .panicked panic := crashed
        rw [running] at crashed
        cases crashed
      · rintro ⟨_, ⟨⟩, splits⟩
        obtain ⟨panic, crashed⟩ := panics.mpr splits
        cases crashed
  | workerRead waiting done =>
    have panics := read_panics_iff done
    rename_i turns read
    constructor
    · have unchanged : (s.workerRead read).acceptLoop = .running := by
        rw [← running]
        rcases read with panic | (error | request) <;> rfl
      simp [unchanged]
    · rintro _ ⟨⟩
      simpa using panics

/-- The accept loop of a run and its workers: who panics, and on what. -/
theorem runtime_panics {s : ServerRuntime} {tr : List (RuntimeAction × Option RequestRead)}
    (run : (serverRuntime daemon).Run Machine.anyStep .new tr s) :
    ((∃ panic, s.acceptLoop = .panicked panic) ↔
      ∃ turns o, (.acceptBusy turns, o) ∈ tr ∧ BringsSplitToken CONNECTION_TIMEOUT turns) ∧
    ∀ turns o, (.workerReads turns, o) ∈ tr →
      ((∃ panic, o = some (.error panic)) ↔ BringsSplitToken CONNECTION_TIMEOUT turns) := by
  apply run.history (P := fun tr s => ((∃ panic, s.acceptLoop = .panicked panic) ↔
      ∃ turns o, (.acceptBusy turns, o) ∈ tr ∧ BringsSplitToken CONNECTION_TIMEOUT turns) ∧
    ∀ turns o, (.workerReads turns, o) ∈ tr →
      ((∃ panic, o = some (.error panic)) ↔ BringsSplitToken CONNECTION_TIMEOUT turns))
  · simp [ServerRuntime.new]
  · intro tr s a s' o ⟨loop, workers⟩ _ hs
    obtain ⟨loop', workers'⟩ := step_panics hs
    have running := (ServerRuntime.step_moves hs).1
    have clean : ¬ ∃ turns o, (.acceptBusy turns, o) ∈ tr ∧
        BringsSplitToken CONNECTION_TIMEOUT turns := by
      rw [← loop, running]
      simp
    constructor
    · rw [loop']
      constructor
      · rintro ⟨turns, rfl, splits⟩
        exact ⟨turns, o, by simp, splits⟩
      · rintro ⟨turns, o', taken, splits⟩
        rcases List.mem_append.mp taken with before | now
        · exact absurd ⟨turns, o', before, splits⟩ clean
        · obtain ⟨rfl, rfl⟩ : .acceptBusy turns = a ∧ o' = o := by simpa using now
          exact ⟨turns, rfl, splits⟩
    · intro turns o' taken
      rcases List.mem_append.mp taken with before | now
      · exact workers turns o' before
      · obtain ⟨rfl, rfl⟩ : .workerReads turns = a ∧ o' = o := by simpa using now
        exact workers' turns rfl

/-- Unauthenticated input panics exactly as a token of 64 bytes that, behind pairs of bytes that
parse, is cut inside a character: in `parse_hex` and `matches_hex`; in a read of a request, which
returns on every schedule that brings no such token; and so in a run of the runtime, in the
accept loop where it is busy and otherwise in a worker. -/
theorem unauthenticated_panics (daemon : Daemon) :
    (∀ value, (∃ parsed, LaunchToken.parseHex value = .ok parsed) ↔
      ¬ LaunchToken.SplitsChar value) ∧
    (∀ (token : LaunchToken) candidate, (∃ answer, token.matchesHex candidate = .ok answer) ↔
      ¬ LaunchToken.SplitsChar candidate) ∧
    (∀ timeout schedule, Fair schedule →
      ((∃ n read, (daemon.readAuthenticatedRequest timeout).run ((List.range n).map schedule) =
          .inr (.ok read)) ↔
        ¬ ∃ n, BringsSplitToken timeout ((List.range n).map schedule))) ∧
    ∀ tr s, (serverRuntime daemon).Run Machine.anyStep .new tr s →
      ((∃ panic, s.acceptLoop = .panicked panic) ↔
        ∃ turns o, (.acceptBusy turns, o) ∈ tr ∧ BringsSplitToken CONNECTION_TIMEOUT turns) ∧
      ∀ turns o, (.workerReads turns, o) ∈ tr →
        ((∃ panic, o = some (.error panic)) ↔ BringsSplitToken CONNECTION_TIMEOUT turns) := by
  refine ⟨?_, ?_, fun _ _ => read_returns_iff, fun _ _ => runtime_panics⟩
  · intro value
    rw [← LaunchToken.parseHex_panics_iff]
    cases LaunchToken.parseHex value <;> simp
  · intro token candidate
    rw [← LaunchToken.matchesHex_panics_iff token]
    cases token.matchesHex candidate <;> simp

end Panics

/-- A token of 64 bytes, the third of which continues a character. -/
def splitToken : String := "0ééééééééééééééééééééééééééééééé0"

/-- A token of 64 zeros. -/
def zeroToken : String := "0000000000000000000000000000000000000000000000000000000000000000"

/-- The daemon of the runs below: its token is 64 zeros, and it refuses an empty payload. -/
def zeroDaemon : Daemon where
  launchToken := ⟨List.replicate 32 0,rfl⟩
  requests := ⟨fun _ => .error "",fun _ => .error "EOF while parsing a value at line 1 column 0"⟩

/-- A connection that brings a token and an empty frame. -/
def bring (token : String) : List Turn := [⟨.ok (utf8 token),0⟩, ⟨.ok [0,0,0,0],0⟩]

/-- A worker refuses an empty frame behind a token of zeros, and gives up on a silent peer. -/
theorem unauthenticated_panics_refused :
    (∃ error s, (serverRuntime zeroDaemon).Run Machine.anyStep .new
        [(.accept true, none), (.workerReads (bring zeroToken), some (.ok (.error error)))] s ∧
      ¬ BringsSplitToken CONNECTION_TIMEOUT (bring zeroToken)) ∧
    ∃ n read, (zeroDaemon.readAuthenticatedRequest 5000).run
      ((List.range n).map fun _ => ⟨.wouldBlock,5000⟩) = .inr (.ok read) := by
  obtain ⟨_, _, returns, panics⟩ := unauthenticated_panics zeroDaemon
  refine ⟨⟨.protocol "malformed protocol JSON: EOF while parsing a value at line 1 column 0",
    ⟨.running,0,0⟩, ?_⟩, ?_⟩
  · have run : (serverRuntime zeroDaemon).Run Machine.anyStep .new
        [(.accept true, none), (.workerReads (bring zeroToken), some (.ok (.error (.protocol
          "malformed protocol JSON: EOF while parsing a value at line 1 column 0"))))]
        ⟨.running,0,0⟩ := by
      apply Machine.Run.cons (t := ⟨.running,1,0⟩) trivial (by decide)
      exact .one trivial (by decide +kernel)
    refine ⟨run, fun brings => ?_⟩
    have taken := (panics _ _ run).2 _ _ (List.mem_cons_of_mem _ (List.mem_singleton.mpr rfl))
    obtain ⟨panic, crashed⟩ := taken.mpr brings
    cases crashed
  · apply (returns 5000 _ (fun n => ⟨n, Nat.le_refl n, by simp⟩)).mpr
    rintro ⟨n, token, frame, received, _⟩
    cases n with
    | zero => cases received
    | succ n =>
      rw [List.range_succ_eq_map] at received
      change Blocked.turns (.inr (Except.error (DaemonError.io deadlineExceeded.message))) _ = _ at received
      rw [Blocked.turns_done] at received
      cases received

/-- With all permits taken, the split token brings the accept loop down. -/
theorem split_token_panics :
    (∃ panic, LaunchToken.parseHex splitToken = .error panic) ∧
      (∃ panic, zeroDaemon.launchToken.matchesHex splitToken = .error panic) ∧
      ∃ tr s panic, (serverRuntime zeroDaemon).Run Machine.anyStep .new tr s ∧
        s.acceptLoop = .panicked panic := by
  have run := Machine.run_of_exec_isSome (serverRuntime zeroDaemon) Machine.anyStep .new
    (List.replicate 8 (.accept true) ++ [.acceptBusy (bring splitToken)]) (by decide +kernel)
  exact ⟨⟨.notCharBoundary 2, rfl⟩, ⟨.notCharBoundary 2, rfl⟩, _, _, .notCharBoundary 2, run,
    by decide +kernel⟩

end Kesharon.Server
