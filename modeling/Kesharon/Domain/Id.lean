import Mathlib.Tactic.SplitIfs

namespace Kesharon.Domain

/-- The characters `str::trim` strips: Unicode White_Space. -/
def isWhitespace (c : Char) : Bool :=
  let n := c.toNat
  (0x9 ≤ n && n ≤ 0xd) || n == 0x20 || n == 0x85 || n == 0xa0 || n == 0x1680 ||
    (0x2000 ≤ n && n ≤ 0x200a) || n == 0x2028 || n == 0x2029 || n == 0x202f ||
    n == 0x205f || n == 0x3000

/-- `value.trim().is_empty()` -/
def isBlank (value : String) : Bool := value.toList.all isWhitespace

/-- Text that the constructors of the domain accept. -/
@[ext] structure NonBlank where
  text : String
  not_blank : isBlank text = false
  deriving DecidableEq, Repr

/-- The check every domain constructor makes, each with its own error. -/
def nonBlank {ε : Type} (error : ε) (value : String) : Except ε NonBlank :=
  if h : isBlank value = false then .ok ⟨value,h⟩ else .error error

@[simp] theorem nonBlank_text {ε : Type} (error : ε) (t : NonBlank) :
    nonBlank error t.text = .ok t := by
  simp [nonBlank, t.not_blank]

theorem text_of_nonBlank {ε : Type} {error : ε} {value : String} {t : NonBlank}
    (h : nonBlank error value = .ok t) : t.text = value := by
  unfold nonBlank at h
  split_ifs at h
  rw [← Except.ok.inj h]

inductive TaskState where
  | draft
  | planning
  | awaitingApproval
  | executing
  | paused
  | awaitingReview
  | completed
  | failed
  | cancelled
  deriving DecidableEq, Repr

def TaskState.isTerminal : TaskState → Bool
  | .completed | .failed | .cancelled => true
  | _ => false

/-- The derived `Debug` text, which storage writes into the `state` column. -/
def TaskState.debug : TaskState → String
  | .draft => "Draft"
  | .planning => "Planning"
  | .awaitingApproval => "AwaitingApproval"
  | .executing => "Executing"
  | .paused => "Paused"
  | .awaitingReview => "AwaitingReview"
  | .completed => "Completed"
  | .failed => "Failed"
  | .cancelled => "Cancelled"

inductive TaskError where
  | emptyIdentifier
  | emptyGoal
  | emptyPlan
  | emptyStepDescription
  | invalidResourceBudget
  | invalidTransition (source : TaskState) (action : String)
  | terminalState
  deriving DecidableEq, Repr

def TaskError.toString : TaskError → String
  | .emptyIdentifier => "identifier must not be blank"
  | .emptyGoal => "task goal must not be blank"
  | .emptyPlan => "task plan must contain at least one step"
  | .emptyStepDescription => "task step description must not be blank"
  | .invalidResourceBudget => "resource budget ceilings must be greater than zero"
  | .invalidTransition source action =>
      "cannot " ++ action ++ " while task is " ++ source.debug
  | .terminalState => "terminal task state cannot be changed"

@[ext] structure TaskId where
  value : NonBlank
  deriving DecidableEq, Repr

@[ext] structure TaskStepId where
  value : NonBlank
  deriving DecidableEq, Repr

def TaskId.new (value : String) : Except TaskError TaskId :=
  (nonBlank .emptyIdentifier value).map TaskId.mk

def TaskStepId.new (value : String) : Except TaskError TaskStepId :=
  (nonBlank .emptyIdentifier value).map TaskStepId.mk

def TaskId.asStr (id : TaskId) : String := id.value.text

@[simp] theorem TaskId.new_asStr (id : TaskId) : TaskId.new id.asStr = .ok id := by
  simp [TaskId.new, TaskId.asStr, Except.map]

end Kesharon.Domain
