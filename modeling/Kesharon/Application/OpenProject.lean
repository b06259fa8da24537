import Kesharon.Domain.Project
import Kesharon.Domain.Task

namespace Kesharon.Application

open Domain

inductive ApplicationError where
  | repository (message : String)
  | invalidProject (message : String)
  | storage (message : String)
  | vault (message : String)
  | cancelled
  deriving DecidableEq, Repr

structure RepositoryInspection where
  canonicalRoot : String
  displayName : String
  deriving DecidableEq, Repr

structure OpenProjectCommand where
  requestedPath : String
  trusted : Bool
  deriving DecidableEq, Repr

/-- The port to durable state. A method gets `self` and leaves it changed or not, whether it
succeeds or fails; loads may count statements inside `self`. -/
class StateRepository (σ : Type) where
  saveProject : Project → σ → Except ApplicationError Unit × σ
  loadProject : String → σ → Except ApplicationError (Option Project) × σ
  loadLastActiveProject : σ → Except ApplicationError (Option Project) × σ
  saveTask : Task → σ → Except ApplicationError Unit × σ
  loadTask : String → σ → Except ApplicationError (Option Task) × σ
  loadActiveTask : String → σ → Except ApplicationError (Option Task) × σ
  saveCheckpoint : String → TaskCheckpoint → σ → Except ApplicationError Unit × σ
  listCheckpoints : String → σ → Except ApplicationError (List TaskCheckpoint) × σ

/-- A session without durable state has no store at all. -/
instance : StateRepository Empty where
  saveProject _ := nofun
  loadProject _ := nofun
  loadLastActiveProject := nofun
  saveTask _ := nofun
  loadTask _ := nofun
  loadActiveTask _ := nofun
  saveCheckpoint _ _ := nofun
  listCheckpoints _ := nofun

/-- Where a thread stands inside `OpenProject::execute`. The cancellation flag is read at two
points, before and after the call into the repository. -/
inductive Execution where
  | entered
  | inspecting
  | inspected (inspection : RepositoryInspection)
  | returned (result : Except ApplicationError Project)

namespace Execution

/-- The check before the inspection. -/
def firstCheck (isCancelled : Bool) : Execution :=
  if isCancelled then .returned (.error .cancelled) else .inspecting

/-- The repository answers. -/
def inspectReturns : Except ApplicationError RepositoryInspection → Execution
  | .ok inspection => .inspected inspection
  | .error e => .returned (.error e)

/-- Build the project under a generated id. -/
def buildProject (inspection : RepositoryInspection) (nextId : String) (trusted : Bool) :
    Except ApplicationError Project :=
  match ProjectId.new nextId with
  | .error e => .error (.invalidProject e.toString)
  | .ok id =>
    match Project.new id inspection.displayName inspection.canonicalRoot trusted with
    | .error e => .error (.invalidProject e.toString)
    | .ok project => .ok project

/-- The check after the inspection; what follows it touches no shared state. -/
def secondCheck (inspection : RepositoryInspection) (isCancelled : Bool) (nextId : String)
    (trusted : Bool) : Execution :=
  if isCancelled then .returned (.error .cancelled)
  else .returned (buildProject inspection nextId trusted)

/-- The use case has returned a project and will not look at the flag again. -/
def pastChecks : Execution → Bool
  | .returned (.ok _) => true
  | _ => false

theorem pastChecks_firstCheck (isCancelled : Bool) :
    (firstCheck isCancelled).pastChecks = false := by
  cases isCancelled <;> rfl

theorem pastChecks_inspectReturns (answer : Except ApplicationError RepositoryInspection) :
    (inspectReturns answer).pastChecks = false := by
  cases answer <;> rfl

theorem pastChecks_secondCheck_cancelled (inspection : RepositoryInspection) (nextId : String)
    (trusted : Bool) : (secondCheck inspection true nextId trusted).pastChecks = false := rfl

end Execution

/-- `OpenProject::execute` in one piece, over what its environment answers in order. -/
def OpenProject.execute (command : OpenProjectCommand) (cancelledBefore : Bool)
    (inspect : String → Except ApplicationError RepositoryInspection) (cancelledAfter : Bool)
    (nextId : String) : Except ApplicationError Project := do
  if cancelledBefore then throw .cancelled
  let inspection ← inspect command.requestedPath
  if cancelledAfter then throw .cancelled
  Execution.buildProject inspection nextId command.trusted

/-- The steps of a thread compose to the function. -/
theorem OpenProject.execute_eq (command : OpenProjectCommand) (before : Bool)
    (inspect : String → Except ApplicationError RepositoryInspection) (after : Bool)
    (nextId : String) :
    Execution.returned (OpenProject.execute command before inspect after nextId) =
      match Execution.firstCheck before with
      | .inspecting =>
        match Execution.inspectReturns (inspect command.requestedPath) with
        | .inspected inspection => Execution.secondCheck inspection after nextId command.trusted
        | e => e
      | e => e := by
  cases before with
  | true => rfl
  | false =>
    cases hi : inspect command.requestedPath with
    | error e => simp [execute, Execution.firstCheck, Execution.inspectReturns, hi, bind,
        Except.bind]
    | ok inspection =>
      cases after with
      | true =>
        simp [execute, Execution.firstCheck, Execution.inspectReturns, hi, bind, Except.bind,
          Execution.secondCheck]
        rfl
      | false =>
        simp [execute, Execution.firstCheck, Execution.inspectReturns, hi, bind, Except.bind,
          Execution.secondCheck]

structure RecoveredSession where
  project : Option Project
  activeTask : Option Task

/-- `SessionRecovery::execute`: the last active project and, with one, its active task. -/
def SessionRecovery.execute {σ : Type} [StateRepository σ] (repo : σ) :
    Except ApplicationError RecoveredSession × σ :=
  match StateRepository.loadLastActiveProject repo with
  | (.error e, repo) => (.error e, repo)
  | (.ok none, repo) => (.ok ⟨none,none⟩, repo)
  | (.ok (some p), repo) =>
    match StateRepository.loadActiveTask p.id.asStr repo with
    | (.error e, repo) => (.error e, repo)
    | (.ok task, repo) => (.ok ⟨some p,task⟩, repo)

end Kesharon.Application
