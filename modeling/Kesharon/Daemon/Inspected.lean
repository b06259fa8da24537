import Kesharon.Daemon.FreshIds

namespace Kesharon.Daemon

open Framework Domain Protocol Application

/-- The steps by which a call for a request has come to where it stands, in their order. -/
def Reached (actions : List Action) (flag : FlagId) (request : ClientRequest) : Execution → Prop
  | .entered => [.dispatch request].Sublist actions
  | .inspecting => [.dispatch request, .firstCheck flag].Sublist actions
  | .inspected inspection =>
    [.dispatch request, .firstCheck flag, .inspectReturns flag (.ok inspection)].Sublist actions
  | .returned (.ok p) => ∃ inspection nextId,
    [.dispatch request, .firstCheck flag, .inspectReturns flag (.ok inspection),
      .secondCheck flag nextId].Sublist actions ∧
    Execution.buildProject inspection nextId false = .ok p
  | .returned (.error _) => True

def Traced (actions : List Action) (flag : FlagId) (call : OpenCall) : Prop :=
  call.request.method = .openProject call.path ∧
    Reached actions flag call.request call.execution

/-- The project has been built of what an inspection has returned to a call for this request. -/
def Inspected (actions : List Action) (requestId : String) (p : Project) : Prop :=
  ∃ request path flag inspection nextId, request.requestId = requestId ∧
    request.method = .openProject path ∧
    [.dispatch request, .firstCheck flag, .inspectReturns flag (.ok inspection),
      .secondCheck flag nextId].Sublist actions ∧
    Execution.buildProject inspection nextId false = .ok p

section Steps

variable {actions : List Action} {flag : FlagId} {call : OpenCall} {p : Project}
variable {requestId streamId : String} {σ : Type} {w w' : World σ} {a : Action} {o : Output}

theorem Reached.mono {request : ClientRequest} {execution : Execution} {more : List Action}
    (h : Reached actions flag request execution) :
    Reached (actions ++ more) flag request execution := by
  cases execution with
  | entered => exact h.trans (List.sublist_append_left ..)
  | inspecting => exact h.trans (List.sublist_append_left ..)
  | inspected inspection => exact h.trans (List.sublist_append_left ..)
  | returned result =>
    cases result with
    | error e => trivial
    | ok p =>
      obtain ⟨inspection, nextId, steps, built⟩ := h
      exact ⟨inspection, nextId, steps.trans (List.sublist_append_left ..), built⟩

theorem Traced.mono {more : List Action} (h : Traced actions flag call) :
    Traced (actions ++ more) flag call := ⟨h.1, h.2.mono⟩

theorem Traced.inspected (h : Traced actions flag call)
    (returned : call.execution = .returned (.ok p)) :
    Inspected actions call.request.requestId p := by
  obtain ⟨method, reached⟩ := h
  rw [returned] at reached
  obtain ⟨inspection, nextId, steps, built⟩ := reached
  exact ⟨call.request, call.path, flag, inspection, nextId, rfl, method, steps, built⟩

/-- A step of a call, behind what brought the call there. -/
theorem Reached.moves {execution : Execution}
    (h : Reached actions flag call.request call.execution)
    (moves : Moves w flag call a execution) :
    Reached (actions ++ [a]) flag call.request execution := by
  cases moves with
  | firstCheck here =>
    rw [here] at h
    cases w.flags call.cancellation with
    | true => trivial
    | false => exact h.append (.refl [Action.firstCheck flag])
  | inspectReturns answer here =>
    rw [here] at h
    cases answer with
    | error e => trivial
    | ok inspection => exact h.append (.refl [Action.inspectReturns flag (.ok inspection)])
  | secondCheck inspection nextId here =>
    rw [here] at h
    cases w.flags call.cancellation with
    | true => trivial
    | false =>
      have returns : Execution.secondCheck inspection false nextId false =
          .returned (Execution.buildProject inspection nextId false) := rfl
      rw [returns]
      cases built : Execution.buildProject inspection nextId false with
      | error e => trivial
      | ok p => exact ⟨inspection, nextId, h.append (.refl [Action.secondCheck flag nextId]), built⟩

/-- Every call in progress is where its steps have brought it. -/
theorem traced_step (calls : ∀ flag call, w.opens.lookup flag = some call → Traced actions flag call)
    (effect : World.CallEffect w a w' o) :
    ∀ flag call, w'.opens.lookup flag = some call → Traced (actions ++ [a]) flag call := by
  intro flag call found
  have kept (same : w'.opens = w.opens) : Traced (actions ++ [a]) flag call := by
    rw [same] at found
    exact (calls flag call found).mono
  cases effect with
  | unrelated same other => exact kept same.opens
  | poisoned other => exact (calls flag call found).mono
  | begun request key path method idle flags flagCount opens active statePoisoned =>
    rw [opens, Assoc.lookup_insert_ite] at found
    split_ifs at found with new
    · obtain rfl := Option.some.inj found
      exact ⟨method, List.sublist_append_right ..⟩
    · exact (calls flag call found).mono
  | undone request path method idle flags flagCount opens active statePoisoned => exact kept opens
  | flagged request target key flag' method keyed clean notCompleted notInFlight running answer
      flags flagCount opens active statePoisoned =>
    exact kept opens
  | moved flag' call' execution running moves =>
    rcases World.lookup_advance found with ⟨rfl, rfl⟩ | ⟨_, old⟩
    · have before := calls flag call' running
      exact ⟨before.1, before.2.moves moves⟩
    · exact (calls flag call old).mono
  | finished flag' call' running flags flagCount opens active statePoisoned =>
    rw [opens, Assoc.lookup_erase_ite] at found
    split_ifs at found
    exact (calls flag call found).mono

end Steps

end Kesharon.Daemon
