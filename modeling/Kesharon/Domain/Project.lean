import Kesharon.Domain.Id

namespace Kesharon.Domain

inductive ProjectError where
  | emptyIdentifier
  | emptyDisplayName
  | emptyCanonicalRoot
  deriving DecidableEq, Repr

def ProjectError.toString : ProjectError → String
  | .emptyIdentifier => "project identifier must not be blank"
  | .emptyDisplayName => "project display name must not be blank"
  | .emptyCanonicalRoot => "project canonical root must not be blank"

@[ext] structure ProjectId where
  value : NonBlank
  deriving DecidableEq, Repr

def ProjectId.new (value : String) : Except ProjectError ProjectId :=
  (nonBlank .emptyIdentifier value).map ProjectId.mk

def ProjectId.asStr (id : ProjectId) : String := id.value.text

@[simp] theorem ProjectId.new_asStr (id : ProjectId) : ProjectId.new id.asStr = .ok id := by
  simp [ProjectId.new, ProjectId.asStr, Except.map]

theorem ProjectId.asStr_of_new {value : String} {id : ProjectId}
    (h : ProjectId.new value = .ok id) : id.asStr = value := by
  unfold ProjectId.new at h
  cases checked : nonBlank ProjectError.emptyIdentifier value with
  | error e => simp [checked, Except.map] at h
  | ok t =>
    rw [checked] at h
    obtain rfl := Except.ok.inj h
    exact text_of_nonBlank checked

@[ext] structure Project where
  id : ProjectId
  displayName : NonBlank
  canonicalRoot : NonBlank
  trusted : Bool
  deriving DecidableEq, Repr

def Project.new (id : ProjectId) (displayName canonicalRoot : String) (trusted : Bool) :
    Except ProjectError Project := do
  let displayName ← nonBlank .emptyDisplayName displayName
  let canonicalRoot ← nonBlank .emptyCanonicalRoot canonicalRoot
  return ⟨id,displayName,canonicalRoot,trusted⟩

theorem Project.id_of_new {id : ProjectId} {displayName canonicalRoot : String} {trusted : Bool}
    {p : Project} (h : Project.new id displayName canonicalRoot trusted = .ok p) : p.id = id := by
  simp only [Project.new, bind, Except.bind, pure, Except.pure] at h
  cases name : nonBlank ProjectError.emptyDisplayName displayName with
  | error e => simp [name] at h
  | ok displayName' =>
    cases root : nonBlank ProjectError.emptyCanonicalRoot canonicalRoot with
    | error e => simp [name, root] at h
    | ok canonicalRoot' =>
      simp only [name, root, Except.ok.injEq] at h
      rw [← h]

end Kesharon.Domain
