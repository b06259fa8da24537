import Kesharon.Framework.Machine
import Kesharon.Server.Main

namespace Kesharon.Host

open Framework Ipc Protocol

inductive ExitDecision where
  | restart
  | markRecoverable
  deriving DecidableEq, Repr

structure RestartBudget where
  restartUsed : Bool := false
  deriving DecidableEq, Repr

def RestartBudget.recordUnexpectedExit (budget : RestartBudget) : RestartBudget × ExitDecision :=
  if budget.restartUsed then (budget, .markRecoverable) else ({ restartUsed := true }, .restart)

inductive ProcessObservation where
  | output
  | streamError
  | terminated
  deriving DecidableEq, Repr

def shouldReplaceDaemon (observation : ProcessObservation) : Bool := observation = .terminated

/-- The fields of `DaemonState` that a supervisor uses; a client is its endpoint and its token, a
child its place among the processes. -/
structure DaemonState where
  client : Option LaunchConfiguration
  child : Option Nat
  restartBudget : RestartBudget

/-- A daemon that the host has spawned, with what it has been given. -/
structure Process where
  arguments : List String
  stdin : List UInt8
  running : Bool

/-- Where a thread of the host stands that starts a daemon or watches over one. -/
inductive Supervisor where
  | starting
  | spawned (launch : LaunchConfiguration) (process : Nat)
  | told (launch : LaunchConfiguration) (process : Nat)
  | registered (process : Nat)
  | recorded (process : Nat)
  | watching (process : Nat)
  | takingClient (process : Nat)
  | takingChild (process : Nat)
  | deciding (process : Nat)
  | ended

/-- The state that the threads share, the processes in the order of their spawns, and the threads. -/
structure Supervision where
  state : DaemonState
  processes : List Process
  supervisors : List Supervisor

inductive SupervisionAction where
  | spawn (supervisor : Nat) (directory : Except HostError Unit)
      (random : Except String { token : List UInt8 // token.length = 32 }) (endpointValue : String)
      (spawned : Except HostError Unit)
  | write (supervisor : Nat) (written : Except Nat Unit) (kills : Bool)
  | setClient (supervisor : Nat)
  | setChild (supervisor : Nat)
  | watch (supervisor : Nat)
  | event (supervisor : Nat) (observation : ProcessObservation)
  | closed (supervisor : Nat)
  | takeClient (supervisor : Nat)
  | takeChild (supervisor : Nat)
  | decide (supervisor : Nat)
  | dies (process : Nat)
  | exit (kills : Bool)

namespace Supervision

/-- `setup` is about to call `start_daemon`. -/
def new : Supervision := ⟨⟨none,none,{}⟩,[],[.starting]⟩

def at_ (s : Supervision) (i : Nat) (supervisor : Supervisor) : Supervision :=
  { s with supervisors := s.supervisors.set i supervisor }

def change (s : Supervision) (process : Nat) (f : Process → Process) : Supervision :=
  { s with processes := s.processes.modify process f }

/-- `child.kill()` -/
def kill (s : Supervision) (process : Nat) (kills : Bool) : Supervision :=
  s.change process fun p => { p with running := p.running && !kills }

/-- What a supervisor does in `start_daemon` up to the spawn. -/
def spawnDaemon (s : Supervision) (i : Nat) (directory : Except HostError Unit)
    (random : Except String { token : List UInt8 // token.length = 32 }) (endpointValue : String)
    (spawned : Except HostError Unit) : Supervision :=
  match directory, LaunchConfiguration.generate random endpointValue, spawned with
  | .ok (), .ok launch, .ok () =>
    match LaunchToken.parseHex launch.launchToken with
    | .ok (.ok _) =>
      { s with
        processes := s.processes ++ [⟨["--endpoint",launch.endpoint.value.text],[],true⟩]
        supervisors := s.supervisors.set i (.spawned launch s.processes.length) }
    | _ => s.at_ i .ended
  | _, _, _ => s.at_ i .ended

def step (s : Supervision) : SupervisionAction → Option (Supervision × Unit)
  | .spawn i directory random endpointValue spawned =>
    match s.supervisors[i]? with
    | some .starting => some (s.spawnDaemon i directory random endpointValue spawned, ())
    | _ => none
  | .write i written kills =>
    match s.supervisors[i]? with
    | some (.spawned launch process) =>
      let stdin := utf8 (launch.launchToken ++ "\n")
      match written with
      | .ok () =>
        some ((s.change process fun p => { p with stdin := stdin }).at_ i (.told launch process), ())
      | .error count =>
        let told := s.change process fun p => { p with stdin := stdin.take count }
        some ((told.kill process kills).at_ i .ended, ())
    | _ => none
  | .setClient i =>
    match s.supervisors[i]? with
    | some (.told launch process) =>
      some (({ s with state := { s.state with client := some launch } }).at_ i (.registered process),
        ())
    | _ => none
  | .setChild i =>
    match s.supervisors[i]? with
    | some (.registered process) =>
      some (({ s with state := { s.state with child := some process } }).at_ i (.recorded process),
        ())
    | _ => none
  | .watch i =>
    match s.supervisors[i]? with
    | some (.recorded process) =>
      some ({ s with supervisors := s.supervisors.set i .ended ++ [.watching process] }, ())
    | _ => none
  | .event i observation =>
    match s.supervisors[i]? with
    | some (.watching process) =>
      if shouldReplaceDaemon observation then
        if (s.processes[process]?.map Process.running) = some false then
          some (s.at_ i (.takingClient process), ())
        else none
      else some (s, ())
    | _ => none
  | .closed i =>
    match s.supervisors[i]? with
    | some (.watching _) => some (s.at_ i .ended, ())
    | _ => none
  | .takeClient i =>
    match s.supervisors[i]? with
    | some (.takingClient process) =>
      some (({ s with state := { s.state with client := none } }).at_ i (.takingChild process), ())
    | _ => none
  | .takeChild i =>
    match s.supervisors[i]? with
    | some (.takingChild process) =>
      some (({ s with state := { s.state with child := none } }).at_ i (.deciding process), ())
    | _ => none
  | .decide i =>
    match s.supervisors[i]? with
    | some (.deciding _) =>
      let (budget, decision) := s.state.restartBudget.recordUnexpectedExit
      let s := { s with state := { s.state with restartBudget := budget } }
      some (s.at_ i (if decision = .restart then .starting else .ended), ())
    | _ => none
  | .dies process => some (s.change process fun p => { p with running := false }, ())
  | .exit kills =>
    match s.state.child with
    | some process =>
      some (({ s with state := { s.state with child := none } }).kill process kills, ())
    | none => some (s, ())

end Supervision

/-- How many terminations the supervisors have answered by taking the client away. -/
def handled (tr : List (SupervisionAction × Unit)) : Nat :=
  tr.countP fun p => match p.1 with
    | .takeClient _ => true
    | _ => false

/-- The process has been given this configuration. -/
def Given (launch : LaunchConfiguration) (process : Process) : Prop :=
  process.arguments = ["--endpoint",launch.endpoint.value.text] ∧
    process.stdin = utf8 (launch.launchToken ++ "\n")

/-- The configuration comes from 32 random bytes. -/
def Generated (launch : LaunchConfiguration) : Prop :=
  ∃ random endpointValue, LaunchConfiguration.generate (.ok random) endpointValue = .ok launch

namespace Supervision

def used (s : Supervision) : Nat := s.state.restartBudget.restartUsed.toNat

theorem used_le (s : Supervision) : s.used ≤ 1 := Bool.toNat_le _

/-- The latest process. -/
def Latest (s : Supervision) (p : Nat) (holds : Process → Prop) : Prop :=
  p + 1 = s.processes.length ∧ ∃ process, s.processes[p]? = some process ∧ holds process

/-- What the supervisor that goes on knows, behind so many terminations. -/
def Stage (handled : Nat) (s : Supervision) : Supervisor → Prop
  | .starting => s.state.client = none ∧ s.state.child = none ∧ s.processes.length = s.used ∧
    handled = s.used ∧ ∀ process ∈ s.processes, process.running = false
  | .spawned launch p => s.state.client = none ∧ s.processes.length = 1 + s.used ∧
    handled = s.used ∧ Generated launch ∧
    s.Latest p fun process => process.arguments = ["--endpoint",launch.endpoint.value.text]
  | .told launch p => s.state.client = none ∧ s.processes.length = 1 + s.used ∧
    handled = s.used ∧ Generated launch ∧ s.Latest p (Given launch)
  | .registered p | .recorded p | .watching p => s.processes.length = 1 + s.used ∧
    handled = s.used ∧ s.Latest p fun _ => True
  | .takingClient p => s.processes.length = 1 + s.used ∧ handled = s.used ∧
    s.Latest p fun process => process.running = false
  | .takingChild p => s.state.client = none ∧ s.processes.length = 1 + s.used ∧
    handled = 1 + s.used ∧ s.Latest p fun process => process.running = false
  | .deciding p => s.state.client = none ∧ s.state.child = none ∧
    s.processes.length = 1 + s.used ∧ handled = 1 + s.used ∧
    s.Latest p fun process => process.running = false
  | .ended => s.processes.length ≤ 2 ∧ s.processes.length ≤ handled + 1 ∧
    handled ≤ s.processes.length

/-- What holds of the host in every run. All supervisors but the last have ended. -/
structure Supervised (handled : Nat) (s : Supervision) : Prop where
  client : ∀ launch, s.state.client = some launch → handled + 1 = s.processes.length ∧
    Generated launch ∧ ∃ p, s.Latest p (Given launch)
  child : ∀ p, s.state.child = some p → p + 1 = s.processes.length
  running : ∀ p process, s.processes[p]? = some process → process.running = true →
    p + 1 = s.processes.length
  supervisors : ∃ done supervisor, s.supervisors = done ++ [supervisor] ∧
    (∀ other ∈ done, other = .ended) ∧ s.Stage handled supervisor

section Steps

variable {s s' : Supervision} {n i p : Nat} {supervisor : Supervisor}

theorem Latest.imp {holds holds' : Process → Prop} (h : s.Latest p holds)
    (imp : ∀ process, holds process → holds' process) : s.Latest p holds' := by
  obtain ⟨last, process, here, known⟩ := h
  exact ⟨last, process, here, imp process known⟩

/-- Only the last supervisor goes on. -/
theorem Supervised.live (h : s.Supervised n) (here : s.supervisors[i]? = some supervisor)
    (busy : supervisor ≠ .ended) :
    s.Stage n supervisor ∧ ∀ next, ∃ done, s.supervisors.set i next = done ++ [next] ∧
      ∀ other ∈ done, other = .ended := by
  obtain ⟨done, last, split, ended, stage⟩ := h.supervisors
  have place : i = done.length ∧ last = supervisor := by
    rw [split, List.getElem?_append] at here
    split_ifs at here with early
    · exact absurd (ended _ (List.mem_of_getElem? here)) busy
    · obtain ⟨inside, same⟩ := List.getElem?_eq_some_iff.mp here
      have only : i - done.length = 0 := by simpa using inside
      simp only [only, List.getElem_cons_zero] at same
      exact ⟨by omega, same⟩
  obtain ⟨rfl, rfl⟩ := place
  refine ⟨stage, ?_⟩
  intro next
  refine ⟨done, ?_, ended⟩
  rw [split, List.set_append_right _ _ (Nat.le_refl _), Nat.sub_self]
  rfl

theorem new_supervised : new.Supervised 0 := by
  refine ⟨?_, ?_, ?_, [], .starting, rfl, ?_, rfl, rfl, rfl, rfl, ?_⟩
  · intro launch known
    cases known
  · intro p known
    cases known
  · intro p process here
    cases here
  · intro other among
    cases among
  · intro process among
    cases among

/-- A process that is given something, or that ends. -/
theorem Latest.change {holds holds' : Process → Prop} {f : Process → Process} {q : Nat}
    (h : s.Latest p holds) (becomes : ∀ process, holds process → holds' process)
    (changes : ∀ process, holds process → holds' (f process)) :
    (s.change q f).Latest p holds' := by
  obtain ⟨last, process, here, known⟩ := h
  refine ⟨?_, ?_⟩
  · exact last.trans (List.length_modify ..).symm
  · change ∃ process, (s.processes.modify q f)[p]? = some process ∧ holds' process
    rw [List.getElem?_modify, here]
    by_cases same : q = p
    · exact ⟨f process, by simp [same], changes process known⟩
    · exact ⟨process, by simp [same], becomes process known⟩

/-- A process that runs behind a change ran before. -/
theorem running_change {f : Process → Process} {q : Nat}
    (quiet : ∀ process, (f process).running = true → process.running = true)
    (running : ∀ p process, s.processes[p]? = some process → process.running = true →
      p + 1 = s.processes.length) {process : Process}
    (here : (s.change q f).processes[p]? = some process) (runs : process.running = true) :
    p + 1 = (s.change q f).processes.length := by
  change (s.processes.modify q f)[p]? = some process at here
  change p + 1 = (s.processes.modify q f).length
  rw [List.getElem?_modify] at here
  rw [List.length_modify]
  obtain ⟨before, there, same⟩ := Option.map_eq_some_iff.mp here
  apply running p before there
  rw [← same] at runs
  split_ifs at runs with changed
  · exact quiet before runs
  · exact runs

/-- A change that gives nothing and starts nothing. -/
structure Ends (f : Process → Process) : Prop where
  arguments : ∀ process, (f process).arguments = process.arguments
  stdin : ∀ process, (f process).stdin = process.stdin
  quiet : ∀ process, (f process).running = true → process.running = true

theorem Ends.given {f : Process → Process} (ends : Ends f) {launch : LaunchConfiguration}
    {process : Process} (given : Given launch process) : Given launch (f process) :=
  ⟨(ends.arguments process).trans given.1, (ends.stdin process).trans given.2⟩

theorem Ends.stopped {f : Process → Process} (ends : Ends f) {process : Process}
    (stopped : process.running = false) : (f process).running = false := by
  by_contra runs
  have before := ends.quiet process (by simpa using runs)
  rw [stopped] at before
  cases before

theorem ends_stop : Ends fun process : Process => { process with running := false } := by
  refine ⟨fun _ => rfl, fun _ => rfl, ?_⟩
  intro process runs
  cases runs

theorem Stage.change {f : Process → Process} (ends : Ends f) (q : Nat)
    (h : s.Stage n supervisor) : (s.change q f).Stage n supervisor := by
  have length : (s.change q f).processes.length = s.processes.length := List.length_modify ..
  unfold Stage at h ⊢
  cases supervisor with
  | starting =>
    obtain ⟨none, childless, count, taken, stopped⟩ := h
    refine ⟨none, childless, length.trans count, taken, ?_⟩
    intro process among
    obtain ⟨p, here⟩ := List.getElem?_of_mem among
    by_contra runs
    have last := running_change (p := p) (s := s) (q := q) (f := f) ends.quiet
      (fun p process here runs => by simp [stopped _ (List.mem_of_getElem? here)] at runs) here
      (by simpa using runs)
    change (s.processes.modify q f)[p]? = some process at here
    rw [List.getElem?_modify] at here
    obtain ⟨before, there, rfl⟩ := Option.map_eq_some_iff.mp here
    have still := stopped before (List.mem_of_getElem? there)
    split_ifs at runs
    · exact runs (ends.stopped still)
    · exact runs still
  | spawned launch p =>
    obtain ⟨none, count, taken, generated, latest⟩ := h
    exact ⟨none, length.trans count, taken, generated,
      latest.change (fun _ given => given) fun process given => (ends.arguments process).trans given⟩
  | told launch p =>
    obtain ⟨none, count, taken, generated, latest⟩ := h
    exact ⟨none, length.trans count, taken, generated,
      latest.change (fun _ given => given) fun _ given => ends.given given⟩
  | registered p | recorded p | watching p =>
    obtain ⟨count, taken, latest⟩ := h
    exact ⟨length.trans count, taken, latest.change (fun _ _ => trivial) fun _ _ => trivial⟩
  | takingClient p =>
    obtain ⟨count, taken, latest⟩ := h
    exact ⟨length.trans count, taken,
      latest.change (fun _ stopped => stopped) fun _ stopped => ends.stopped stopped⟩
  | takingChild p =>
    obtain ⟨none, count, taken, latest⟩ := h
    exact ⟨none, length.trans count, taken,
      latest.change (fun _ stopped => stopped) fun _ stopped => ends.stopped stopped⟩
  | deciding p =>
    obtain ⟨none, childless, count, taken, latest⟩ := h
    exact ⟨none, childless, length.trans count, taken,
      latest.change (fun _ stopped => stopped) fun _ stopped => ends.stopped stopped⟩
  | ended =>
    obtain ⟨two, behind, answered⟩ := h
    exact ⟨length ▸ two, length ▸ behind, length ▸ answered⟩

theorem Supervised.change {f : Process → Process} (ends : Ends f) (q : Nat)
    (h : s.Supervised n) : (s.change q f).Supervised n := by
  have length : (s.change q f).processes.length = s.processes.length := List.length_modify ..
  obtain ⟨done, last, split, ended, stage⟩ := h.supervisors
  refine ⟨?_, ?_, ?_, done, last, split, ended, stage.change ends q⟩
  · intro launch known
    obtain ⟨fresh, generated, p, latest⟩ := h.client launch known
    exact ⟨fresh.trans length.symm, generated, p,
      latest.change (fun _ given => given) fun _ given => ends.given given⟩
  · intro p known
    exact (h.child p known).trans length.symm
  · intro p process here runs
    exact running_change ends.quiet h.running here runs

theorem ends_kill (kills : Bool) :
    Ends fun process : Process => { process with running := process.running && !kills } := by
  refine ⟨fun _ => rfl, fun _ => rfl, ?_⟩
  intro process runs
  exact (Bool.and_eq_true_iff.mp runs).1

/-- The supervisor that goes on takes a step. -/
theorem Supervised.goes {next : Supervisor} {m : Nat} (h : s.Supervised n)
    (here : s.supervisors[i]? = some supervisor) (busy : supervisor ≠ .ended)
    (threads : s'.supervisors = s.supervisors.set i next)
    (client : ∀ launch, s'.state.client = some launch → m + 1 = s'.processes.length ∧
      Generated launch ∧ ∃ p, s'.Latest p (Given launch))
    (child : ∀ p, s'.state.child = some p → p + 1 = s'.processes.length)
    (running : ∀ p process, s'.processes[p]? = some process → process.running = true →
      p + 1 = s'.processes.length)
    (stage : s'.Stage m next) : s'.Supervised m := by
  obtain ⟨_, goes⟩ := h.live here busy
  obtain ⟨done, split, ended⟩ := goes next
  exact ⟨client, child, running, done, next, threads.trans split, ended, stage⟩

/-- A step that changes neither the shared state nor a process. -/
theorem Supervised.moves {next : Supervisor} (h : s.Supervised n)
    (here : s.supervisors[i]? = some supervisor) (busy : supervisor ≠ .ended)
    (stage : s.Stage n next) : (s.at_ i next).Supervised n := by
  have threads : (s.at_ i next).supervisors = s.supervisors.set i next := rfl
  exact h.goes here busy threads h.client h.child h.running stage

theorem Supervised.spawn (h : s.Supervised n) (here : s.supervisors[i]? = some .starting)
    (directory : Except HostError Unit)
    (random : Except String { token : List UInt8 // token.length = 32 }) (endpointValue : String)
    (spawned : Except HostError Unit) :
    (s.spawnDaemon i directory random endpointValue spawned).Supervised n := by
  have stage := (h.live here (by simp)).1
  obtain ⟨none, childless, count, taken, stopped⟩ := stage
  have gives : (s.at_ i .ended).Supervised n := by
    have once := s.used_le
    apply h.moves here (by simp)
    exact ⟨by omega, by omega, by omega⟩
  unfold spawnDaemon
  split
  · rename_i launch made
    split
    · have length : (s.processes ++
          [(⟨["--endpoint",launch.endpoint.value.text],[],true⟩ : Process)]).length =
          s.processes.length + 1 := by simp
      apply h.goes here (by simp) rfl
      · intro other known
        rw [none] at known
        cases known
      · intro p known
        rw [childless] at known
        cases known
      · intro p process among runs
        rw [List.getElem?_append] at among
        split_ifs at among with before
        · have still := stopped process (List.mem_of_getElem? among)
          rw [still] at runs
          cases runs
        · obtain ⟨inside, _⟩ := List.getElem?_eq_some_iff.mp among
          have last : p - s.processes.length = 0 := by simpa using inside
          refine Eq.trans ?_ length.symm
          omega
      · have generated : Generated launch := by
          cases random with
          | error error =>
            simp only [LaunchConfiguration.generate] at made
            cases made
          | ok random => exact ⟨random, endpointValue, made⟩
        refine ⟨none, ?_, taken, generated, length.symm, _, List.getElem?_concat_length, rfl⟩
        rw [length, count]
        exact Nat.add_comm ..
    · exact gives
  · exact gives

theorem Supervised.write (h : s.Supervised n) {launch : LaunchConfiguration}
    (here : s.supervisors[i]? = some (.spawned launch p)) :
    ((s.change p fun process =>
      { process with stdin := utf8 (launch.launchToken ++ "\n") }).at_ i
        (.told launch p)).Supervised n := by
  obtain ⟨none, count, taken, generated, latest⟩ := (h.live here (by simp)).1
  have length : (s.change p fun process =>
      { process with stdin := utf8 (launch.launchToken ++ "\n") }).processes.length =
      s.processes.length := List.length_modify ..
  apply h.goes here (by simp) rfl
  · intro other known
    have absent := none.symm.trans known
    cases absent
  · intro q known
    exact (h.child q known).trans length.symm
  · intro q process among runs
    exact running_change (fun _ runs => runs) h.running among runs
  · refine ⟨none, length.trans count, taken, generated, length ▸ latest.1, ?_⟩
    obtain ⟨_, process, found, arguments⟩ := latest
    refine ⟨{ process with stdin := utf8 (launch.launchToken ++ "\n") }, ?_, arguments, rfl⟩
    change (s.processes.modify p _)[p]? = some _
    rw [List.getElem?_modify, found]
    simp

theorem Supervised.failedWrite (h : s.Supervised n) {launch : LaunchConfiguration}
    (here : s.supervisors[i]? = some (.spawned launch p)) (stdin : List UInt8) (kills : Bool) :
    (((s.change p fun process => { process with stdin := stdin }).kill p kills).at_ i
      .ended).Supervised n := by
  obtain ⟨none, count, taken, generated, latest⟩ := (h.live here (by simp)).1
  let told := s.change p fun process => { process with stdin := stdin }
  have length : (told.kill p kills).processes.length = s.processes.length :=
    (List.length_modify ..).trans (List.length_modify ..)
  apply h.goes here (by simp) rfl
  · intro other known
    have absent := none.symm.trans known
    cases absent
  · intro q known
    exact (h.child q known).trans length.symm
  · intro q process among runs
    apply running_change (ends_kill kills).quiet _ among runs
    intro q process among runs
    exact running_change (fun _ runs => runs) h.running among runs
  · have once := s.used_le
    change (told.kill p kills).processes.length ≤ 2 ∧
      (told.kill p kills).processes.length ≤ n + 1 ∧ n ≤ (told.kill p kills).processes.length
    rw [length]
    exact ⟨by omega, by omega, by omega⟩

theorem Supervised.setClient (h : s.Supervised n) {launch : LaunchConfiguration}
    (here : s.supervisors[i]? = some (.told launch p)) :
    (({ s with state := { s.state with client := some launch } }).at_ i
      (.registered p)).Supervised n := by
  obtain ⟨_, count, taken, generated, latest⟩ := (h.live here (by simp)).1
  apply h.goes here (by simp) rfl
  · intro other known
    obtain rfl := Option.some.inj known
    refine ⟨?_, generated, p, latest⟩
    change n + 1 = s.processes.length
    omega
  · exact h.child
  · exact h.running
  · exact ⟨count, taken, latest.imp fun _ _ => trivial⟩

theorem Supervised.setChild (h : s.Supervised n)
    (here : s.supervisors[i]? = some (.registered p)) :
    (({ s with state := { s.state with child := some p } }).at_ i (.recorded p)).Supervised n := by
  obtain ⟨count, taken, latest⟩ := (h.live here (by simp)).1
  apply h.goes here (by simp) rfl
  · exact h.client
  · intro q known
    obtain rfl := Option.some.inj known
    exact latest.1
  · exact h.running
  · exact ⟨count, taken, latest⟩

/-- The thread that has started a daemon hands the watch over. -/
theorem Supervised.watch (h : s.Supervised n) (here : s.supervisors[i]? = some (.recorded p)) :
    ({ s with supervisors := s.supervisors.set i .ended ++ [.watching p] } :
      Supervision).Supervised n := by
  obtain ⟨stage, goes⟩ := h.live here (by simp)
  obtain ⟨done, split, ended⟩ := goes .ended
  refine ⟨h.client, h.child, h.running, done ++ [.ended], .watching p, ?_, ?_, stage⟩
  · change s.supervisors.set i .ended ++ [.watching p] = _
    rw [split]
  · intro other among
    rcases List.mem_append.mp among with old | last
    · exact ended other old
    · exact List.mem_singleton.mp last

/-- The termination of the daemon is observed. -/
theorem Supervised.terminated (h : s.Supervised n)
    (here : s.supervisors[i]? = some (.watching p))
    (dead : s.processes[p]?.map Process.running = some false) :
    (s.at_ i (.takingClient p)).Supervised n := by
  obtain ⟨count, taken, last, _⟩ := (h.live here (by simp)).1
  apply h.moves here (by simp)
  exact ⟨count, taken, last, Option.map_eq_some_iff.mp dead⟩

theorem Supervised.closed (h : s.Supervised n) (here : s.supervisors[i]? = some (.watching p)) :
    (s.at_ i .ended).Supervised n := by
  obtain ⟨count, taken, _⟩ := (h.live here (by simp)).1
  have once := s.used_le
  apply h.moves here (by simp)
  exact ⟨by omega, by omega, by omega⟩

theorem Supervised.takeClient (h : s.Supervised n)
    (here : s.supervisors[i]? = some (.takingClient p)) :
    (({ s with state := { s.state with client := none } }).at_ i
      (.takingChild p)).Supervised (n + 1) := by
  obtain ⟨count, taken, latest⟩ := (h.live here (by simp)).1
  apply h.goes here (by simp) rfl
  · intro other known
    cases known
  · exact h.child
  · exact h.running
  · refine ⟨rfl, count, ?_, latest⟩
    change n + 1 = 1 + s.used
    omega

theorem Supervised.takeChild (h : s.Supervised n)
    (here : s.supervisors[i]? = some (.takingChild p)) :
    (({ s with state := { s.state with child := none } }).at_ i (.deciding p)).Supervised n := by
  obtain ⟨none, count, taken, latest⟩ := (h.live here (by simp)).1
  apply h.goes here (by simp) rfl
  · exact h.client
  · intro q known
    cases known
  · exact h.running
  · exact ⟨none, rfl, count, taken, latest⟩

/-- A daemon that runs no longer and is the latest: none runs. -/
theorem Supervised.none_runs (h : s.Supervised n)
    (latest : s.Latest p fun process => process.running = false) :
    ∀ process ∈ s.processes, process.running = false := by
  obtain ⟨last, process, found, stopped⟩ := latest
  intro other among
  obtain ⟨q, here⟩ := List.getElem?_of_mem among
  by_contra runs
  have same : q = p := by
    have := h.running q other here (by simpa using runs)
    omega
  rw [same, found] at here
  obtain rfl := Option.some.inj here
  exact runs stopped

theorem Supervised.decide (h : s.Supervised n)
    (here : s.supervisors[i]? = some (.deciding p)) :
    (({ s with state := { s.state with
        restartBudget := s.state.restartBudget.recordUnexpectedExit.1 } }).at_ i
      (if s.state.restartBudget.recordUnexpectedExit.2 = ExitDecision.restart
        then .starting else .ended)).Supervised n := by
  obtain ⟨none, childless, count, taken, latest⟩ := (h.live here (by simp)).1
  have stopped := h.none_runs latest
  apply h.goes here (by simp) rfl
  · exact h.client
  · exact h.child
  · exact h.running
  unfold RestartBudget.recordUnexpectedExit
  cases used : s.state.restartBudget.restartUsed with
  | false =>
    have zero : s.used = 0 := by simp [Supervision.used, used]
    refine ⟨none, childless, ?_, ?_, stopped⟩
    · change s.processes.length = 1
      omega
    · change n = 1
      omega
  | true =>
    have one : s.used = 1 := by simp [Supervision.used, used]
    change s.processes.length ≤ 2 ∧ s.processes.length ≤ n + 1 ∧ n ≤ s.processes.length
    exact ⟨by omega, by omega, by omega⟩

theorem Supervised.exit (h : s.Supervised n) (kills : Bool) :
    (({ s with state := { s.state with child := none } }).kill p kills).Supervised n := by
  apply Supervised.change (ends_kill kills)
  obtain ⟨done, supervisor, split, ended, stage⟩ := h.supervisors
  refine ⟨h.client, ?_, h.running, done, supervisor, split, ended, ?_⟩
  · intro q known
    cases known
  · cases supervisor with
    | starting => exact ⟨stage.1, rfl, stage.2.2⟩
    | deciding p => exact ⟨stage.1, rfl, stage.2.2⟩
    | _ => exact stage

theorem Supervised.step {action : SupervisionAction} {o : Unit} (h : s.Supervised n)
    (step : s.step action = some (s', o)) : s'.Supervised (n + handled [(action, o)]) := by
  cases action with
  | spawn i directory random endpointValue spawned =>
    simp only [Supervision.step] at step
    split at step
    · rename_i here
      obtain ⟨rfl, _⟩ := Prod.mk.inj (Option.some.inj step)
      exact h.spawn here directory random endpointValue spawned
    · cases step
  | write i written kills =>
    simp only [Supervision.step] at step
    split at step
    · rename_i launch process here
      split at step
      · obtain ⟨rfl, _⟩ := Prod.mk.inj (Option.some.inj step)
        exact h.write here
      · obtain ⟨rfl, _⟩ := Prod.mk.inj (Option.some.inj step)
        exact h.failedWrite here _ kills
    · cases step
  | setClient i =>
    simp only [Supervision.step] at step
    split at step
    · rename_i launch process here
      obtain ⟨rfl, _⟩ := Prod.mk.inj (Option.some.inj step)
      exact h.setClient here
    · cases step
  | setChild i =>
    simp only [Supervision.step] at step
    split at step
    · rename_i process here
      obtain ⟨rfl, _⟩ := Prod.mk.inj (Option.some.inj step)
      exact h.setChild here
    · cases step
  | watch i =>
    simp only [Supervision.step] at step
    split at step
    · rename_i process here
      obtain ⟨rfl, _⟩ := Prod.mk.inj (Option.some.inj step)
      exact h.watch here
    · cases step
  | event i observation =>
    simp only [Supervision.step] at step
    split at step
    · rename_i process here
      split_ifs at step with terminated dead
      · obtain ⟨rfl, _⟩ := Prod.mk.inj (Option.some.inj step)
        exact h.terminated here dead
      · obtain ⟨rfl, _⟩ := Prod.mk.inj (Option.some.inj step)
        exact h
    · cases step
  | closed i =>
    simp only [Supervision.step] at step
    split at step
    · rename_i process here
      obtain ⟨rfl, _⟩ := Prod.mk.inj (Option.some.inj step)
      exact h.closed here
    · cases step
  | takeClient i =>
    simp only [Supervision.step] at step
    split at step
    · rename_i process here
      obtain ⟨rfl, _⟩ := Prod.mk.inj (Option.some.inj step)
      exact h.takeClient here
    · cases step
  | takeChild i =>
    simp only [Supervision.step] at step
    split at step
    · rename_i process here
      obtain ⟨rfl, _⟩ := Prod.mk.inj (Option.some.inj step)
      exact h.takeChild here
    · cases step
  | decide i =>
    simp only [Supervision.step] at step
    split at step
    · rename_i process here
      obtain ⟨rfl, _⟩ := Prod.mk.inj (Option.some.inj step)
      exact h.decide here
    · cases step
  | dies process =>
    obtain ⟨rfl, _⟩ := Prod.mk.inj (Option.some.inj step)
    exact h.change ends_stop process
  | exit kills =>
    simp only [Supervision.step] at step
    split at step
    · obtain ⟨rfl, _⟩ := Prod.mk.inj (Option.some.inj step)
      exact h.exit kills
    · obtain ⟨rfl, _⟩ := Prod.mk.inj (Option.some.inj step)
      exact h

end Steps

end Supervision

def supervision : Machine Supervision SupervisionAction Unit := ⟨Supervision.step⟩

theorem supervised {tr : List (SupervisionAction × Unit)} {s : Supervision}
    (run : supervision.Run Machine.anyStep .new tr s) : s.Supervised (handled tr) := by
  apply run.history (P := fun tr s => s.Supervised (handled tr)) Supervision.new_supervised
  intro tr s action s' o h _ step
  have counted : handled (tr ++ [(action, o)]) = handled tr + handled [(action, o)] :=
    List.countP_append ..
  rw [counted]
  exact h.step step

namespace Supervision

variable {s : Supervision} {n : Nat}

theorem Supervised.length_le (h : s.Supervised n) : s.processes.length ≤ 2 ∧
    s.processes.length ≤ n + 1 ∧ n ≤ s.processes.length := by
  have once := s.used_le
  obtain ⟨_, supervisor, _, _, stage⟩ := h.supervisors
  cases supervisor with
  | starting =>
    obtain ⟨_, _, count, taken, _⟩ := stage
    exact ⟨by omega, by omega, by omega⟩
  | spawned launch p | told launch p =>
    obtain ⟨_, count, taken, _⟩ := stage
    exact ⟨by omega, by omega, by omega⟩
  | registered p | recorded p | watching p | takingClient p =>
    obtain ⟨count, taken, _⟩ := stage
    exact ⟨by omega, by omega, by omega⟩
  | takingChild p =>
    obtain ⟨_, count, taken, _⟩ := stage
    exact ⟨by omega, by omega, by omega⟩
  | deciding p =>
    obtain ⟨_, _, count, taken, _⟩ := stage
    exact ⟨by omega, by omega, by omega⟩
  | ended => exact stage

/-- A client reaches a daemon that has taken its endpoint and knows its token. -/
theorem Supervised.reaches (h : s.Supervised n) {launch : LaunchConfiguration}
    (known : s.state.client = some launch) :
    n + 1 = s.processes.length ∧ ∃ process token, s.processes.getLast? = some process ∧
      Server.Main.run process.arguments process.stdin = .ok (.ok ⟨launch.endpoint,token,false⟩) ∧
      token.matchesHex launch.launchToken = .ok true := by
  obtain ⟨fresh, ⟨random, endpointValue, generated⟩, p, last, process, found, arguments, stdin⟩ :=
    h.client launch known
  refine ⟨fresh, process, ⟨random.1,random.2⟩, ?_, ?_, ?_⟩
  · rw [List.getLast?_eq_getElem?, ← found]
    congr 1
    omega
  · rw [arguments, stdin]
    exact Server.Main.run_launched generated
  · have written := Server.Main.launchToken_generated generated
    rw [LaunchToken.matchesHex_eq_true, written]
    exact .of_spells (LaunchConfiguration.spells_writeToken random.1)

/-- The exit of the host kills the daemon that it has recorded, and there is no other. -/
theorem Supervised.exit_kills (h : s.Supervised n) {p : Nat} (known : s.state.child = some p)
    {s' : Supervision} {o : Unit} (step : s.step (.exit true) = some (s', o)) :
    ∀ process ∈ s'.processes, process.running = false := by
  simp only [Supervision.step, known, Option.some.injEq, Prod.mk.injEq] at step
  obtain ⟨rfl, _⟩ := step
  intro process among
  obtain ⟨q, here⟩ := List.getElem?_of_mem among
  change (s.processes.modify p fun process =>
    { process with running := process.running && !true })[q]? = some process at here
  rw [List.getElem?_modify] at here
  obtain ⟨before, there, rfl⟩ := Option.map_eq_some_iff.mp here
  split_ifs with same
  · exact Bool.and_false _
  · by_contra runs
    have latest := h.running q before there (by simpa [same] using runs)
    have recorded := h.child p known
    omega

end Supervision

/-- In every run of the host it starts at most two daemons, the second behind the termination of the
first, and no two run at once. A client that it holds is one of the latest daemon, no termination
of which has been handled, and this daemon has taken its endpoint and knows its token. An exit
that can kill leaves no daemon behind where one is recorded. -/
theorem daemon_supervised {tr : List (SupervisionAction × Unit)} {s : Supervision}
    (run : supervision.Run Machine.anyStep .new tr s) :
    (s.processes.length ≤ 2 ∧ s.processes.length ≤ handled tr + 1 ∧
      handled tr ≤ s.processes.length) ∧
    (∀ (p q : Nat) first second, s.processes[p]? = some first → s.processes[q]? = some second →
      first.running = true → second.running = true → p = q) ∧
    (∀ launch, s.state.client = some launch → handled tr + 1 = s.processes.length ∧
      ∃ process token, s.processes.getLast? = some process ∧
        Server.Main.run process.arguments process.stdin =
          .ok (.ok ⟨launch.endpoint,token,false⟩) ∧
        token.matchesHex launch.launchToken = .ok true) ∧
    ∀ p s' o, s.state.child = some p → s.step (.exit true) = some (s', o) →
      ∀ process ∈ s'.processes, process.running = false := by
  have h := supervised run
  refine ⟨h.length_le, ?_, ?_, ?_⟩
  · intro p q first second here there runs too
    have := h.running p first here runs
    have := h.running q second there too
    omega
  · intro launch known
    exact h.reaches known
  · intro p s' o known step
    exact h.exit_kills known step

/-- The first daemon dies and a second one is started; the client is the one of the second. -/
theorem daemon_supervised_again : ∃ tr s, supervision.Run Machine.anyStep .new tr s ∧
    s.processes.length = 2 ∧ handled tr = 1 ∧ ∃ launch process token,
      s.state.client = some launch ∧ s.processes.getLast? = some process ∧
      Server.Main.run process.arguments process.stdin =
        .ok (.ok ⟨launch.endpoint,token,false⟩) ∧
      token.matchesHex launch.launchToken = .ok true := by
  let zero : { token : List UInt8 // token.length = 32 } := ⟨List.replicate 32 0,by simp⟩
  let one : { token : List UInt8 // token.length = 32 } := ⟨List.replicate 32 1,by simp⟩
  have executed : (supervision.exec Machine.anyStep .new
      [.spawn 0 (.ok ()) (.ok zero) "k-0.sock" (.ok ()), .write 0 (.ok ()) false, .setClient 0,
        .setChild 0, .watch 0, .dies 0, .event 1 .terminated, .takeClient 1, .takeChild 1,
        .decide 1, .spawn 1 (.ok ()) (.ok one) "k-1.sock" (.ok ()), .write 1 (.ok ()) false,
        .setClient 1]).bind (fun r => if r.2.processes.length = 2 ∧ handled r.1 = 1 then
          r.2.state.client.map fun launch => launch.endpoint.value.text else none) =
      some "k-1.sock" := by decide +kernel
  obtain ⟨⟨tr, s⟩, executed, seen⟩ := Option.bind_eq_some_iff.mp executed
  have run := Machine.run_of_exec executed
  dsimp only at seen
  split_ifs at seen with counts
  obtain ⟨launch, known, _⟩ := Option.map_eq_some_iff.mp seen
  obtain ⟨_, process, token, rest⟩ := (daemon_supervised run).2.2.1 launch known
  exact ⟨tr, s, run, counts.1, counts.2, launch, process, token, known, rest⟩

end Kesharon.Host
