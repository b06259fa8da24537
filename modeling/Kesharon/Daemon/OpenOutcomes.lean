import Kesharon.Daemon.FreshIds
import Kesharon.Daemon.Repository

namespace Kesharon.Daemon

open Framework Domain Protocol Application

/-- The daemon's own repository answers, over what each call sees of the file system, and its own
generator returns ids that are not blank. -/
def Answers (files : FlagId → FileSystem) (w : World SqliteStateRepository) : Action → Prop
  | .inspectReturns flag answer => (w.opens.lookup flag).map (fun call =>
      FilesystemRepository.inspect (files flag) call.path) = some answer
  | .secondCheck _ nextId => isBlank nextId = false
  | _ => True

instance (files : FlagId → FileSystem) (w : World SqliteStateRepository) (a : Action) :
    Decidable (Answers files w a) :=
  match a with
  | .inspectReturns _ _ => inferInstanceAs (Decidable (_ = _))
  | .secondCheck _ _ => inferInstanceAs (Decidable (_ = _))
  | .dispatch _ | .firstCheck _ | .finish _ | .subscribe | .recv _ | .hangUp _ | .poisonState
  | .poisonRepository => .isTrue trivial

/-- The session stays healthy, too. -/
def Answered (files : FlagId → FileSystem) (w : World SqliteStateRepository) (a : Action)
    (w' : World SqliteStateRepository) : Prop :=
  Healthy w' ∧ Answers files w a

instance (files : FlagId → FileSystem) (w : World SqliteStateRepository) (a : Action)
    (w' : World SqliteStateRepository) : Decidable (Answered files w a w') :=
  inferInstanceAs (Decidable (_ ∧ _))

/-- What a call has of its inspection. -/
def Fits (files : FileSystem) (path : String) : Execution → Prop
  | .inspected inspection => FilesystemRepository.inspect files path = .ok inspection
  | .returned (.ok p) => ∃ inspection nextId,
    FilesystemRepository.inspect files path = .ok inspection ∧
      Execution.buildProject inspection nextId false = .ok p
  | .returned (.error e) => e = .cancelled ∨ FilesystemRepository.inspect files path = .error e
  | _ => True

/-- A call of a request that has been dispatched. -/
structure Asked (files : FileSystem) (actions : List Action) (call : OpenCall) : Prop where
  dispatched : .dispatch call.request ∈ actions
  method : call.request.method = .openProject call.path
  fits : Fits files call.path call.execution

section Steps

variable {files : FlagId → FileSystem} {actions : List Action} {flag : FlagId} {call : OpenCall}
variable {w w' : World SqliteStateRepository} {a : Action} {o : Output}

theorem Asked.mono {one : FileSystem} (h : Asked one actions call) (a : Action) :
    Asked one (actions ++ [a]) call :=
  ⟨List.mem_append_left _ h.dispatched, h.method, h.fits⟩

theorem Asked.moves {execution : Execution} (h : Asked (files flag) actions call)
    (running : w.opens.lookup flag = some call) (moves : Moves w flag call a execution)
    (answered : Answered files w a w') :
    Asked (files flag) (actions ++ [a]) { call with execution := execution } := by
  refine ⟨List.mem_append_left _ h.dispatched, h.method, ?_⟩
  have fits := h.fits
  cases moves with
  | firstCheck here =>
    change Fits (files flag) call.path (Execution.firstCheck (w.flags call.cancellation))
    cases w.flags call.cancellation with
    | true => exact .inl rfl
    | false => trivial
  | inspectReturns answer here =>
    have same := answered.2
    unfold Answers at same
    dsimp only at same
    rw [running] at same
    obtain rfl := Option.some.inj same
    change Fits (files flag) call.path (Execution.inspectReturns
      (FilesystemRepository.inspect (files flag) call.path))
    cases inspected : FilesystemRepository.inspect (files flag) call.path with
    | error e => exact .inr inspected
    | ok inspection => exact inspected
  | secondCheck inspection nextId here =>
    have solid : isBlank nextId = false := answered.2
    rw [here] at fits
    change Fits (files flag) call.path
      (Execution.secondCheck inspection (w.flags call.cancellation) nextId false)
    cases w.flags call.cancellation with
    | true => exact .inl rfl
    | false =>
      obtain ⟨p, built, _⟩ := FilesystemRepository.inspect_builds fits solid
      have returns : Execution.secondCheck inspection false nextId false = .returned (.ok p) := by
        rw [← built]
        rfl
      rw [returns]
      exact ⟨inspection, nextId, fits, built⟩

end Steps

def Action.finishes : Action → Option FlagId
  | .finish flag => some flag
  | _ => none

end Kesharon.Daemon
