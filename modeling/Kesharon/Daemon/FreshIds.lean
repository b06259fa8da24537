import Kesharon.Daemon.ProjectStorage
import Kesharon.Daemon.StoreEffects

namespace Kesharon.Daemon

open Framework Framework.Sql Domain Protocol Application

/-- The id that a step gets from the generator. -/
def generatedId : Action → Option String
  | .secondCheck _ nextId => some nextId
  | _ => none

def generatedIds (tr : List (Action × Output)) : List String := tr.filterMap fun p => generatedId p.1

theorem generatedIds_snoc (tr : List (Action × Output)) (p : Action × Output) :
    generatedIds (tr ++ [p]) = generatedIds tr ++ (generatedId p.1).toList := by
  simp only [generatedIds, List.filterMap_append, List.filterMap_cons, List.filterMap_nil]
  cases generatedId p.1 <;> rfl

/-- Ids once generated stay generated. -/
theorem mem_generatedIds_snoc {tr : List (Action × Output)} {p : Action × Output} {id : String}
    (h : id ∈ generatedIds tr) : id ∈ generatedIds (tr ++ [p]) := by
  rw [generatedIds_snoc]
  exact List.mem_append_left _ h

/-- The generator never returns an id twice, nor one that a store named before. -/
def NeverRepeated (known : List Value) (tr : List (Action × Output)) : Prop :=
  (generatedIds tr).Nodup ∧ ∀ id ∈ generatedIds tr, .text id ∉ known

theorem NeverRepeated.before {known : List Value} {tr : List (Action × Output)}
    {p : Action × Output} (h : NeverRepeated known (tr ++ [p])) : NeverRepeated known tr := by
  unfold NeverRepeated at h
  rw [generatedIds_snoc] at h
  exact ⟨h.1.of_append_left, fun id among => h.2 id (List.mem_append_left _ among)⟩

theorem NeverRepeated.fresh {known : List Value} {tr : List (Action × Output)}
    {p : Action × Output} {id : String} (h : NeverRepeated known (tr ++ [p]))
    (here : generatedId p.1 = some id) : id ∉ generatedIds tr ∧ .text id ∉ known := by
  unfold NeverRepeated at h
  rw [generatedIds_snoc, here] at h
  constructor
  · intro among
    exact (List.nodup_append.mp h.1).2.2 id among id (by simp) rfl
  · exact h.2 id (by simp)

section Pending

variable {σ : Type} {w w' : World σ} {a : Action} {o : Output} {flag : FlagId} {p : Project}

theorem buildProject_id {inspection : RepositoryInspection} {nextId : String} {trusted : Bool}
    {p : Project} (h : Execution.buildProject inspection nextId trusted = .ok p) :
    p.id.asStr = nextId := by
  unfold Execution.buildProject at h
  cases hid : ProjectId.new nextId with
  | error e => simp [hid] at h
  | ok id =>
    simp only [hid] at h
    cases hp : Project.new id inspection.displayName inspection.canonicalRoot trusted with
    | error e => simp [hp] at h
    | ok q =>
      simp only [hp, Except.ok.injEq] at h
      subst h
      rw [Project.id_of_new hp, ProjectId.asStr_of_new hid]

/-- A move brings a call to a project only behind the second check, under the generated id. -/
theorem pending_advance {w : World σ} {flag flag' : FlagId} {call : OpenCall} {a : Action}
    {execution : Execution} {p : Project} (moves : Moves w flag call a execution)
    (h : Pending (w.advance flag call execution) flag' p) :
    Pending w flag' p ∨ flag' = flag ∧ generatedId a = some p.id.asStr := by
  obtain ⟨found, hl, hx⟩ := h
  change (w.opens.insert flag { call with execution := execution }).lookup flag' = some found at hl
  rw [Assoc.lookup_insert_ite] at hl
  split_ifs at hl with same
  · obtain rfl := Option.some.inj hl
    have hx : execution = .returned (.ok p) := hx
    have past : execution.pastChecks = true := by rw [hx]; rfl
    cases moves with
    | firstCheck here =>
      rw [Execution.pastChecks_firstCheck] at past
      cases past
    | inspectReturns answer here =>
      rw [Execution.pastChecks_inspectReturns] at past
      cases past
    | secondCheck inspection nextId here =>
      refine .inr ⟨same, ?_⟩
      cases hc : w.flags call.cancellation with
      | true =>
        rw [hc, Execution.pastChecks_secondCheck_cancelled] at past
        cases past
      | false =>
        rw [hc] at hx
        have built := Execution.returned.inj hx
        rw [buildProject_id built]
        rfl
  · exact .inl ⟨found, hl, hx⟩

/-- A call that has a project had it before, and is not the one that finishes, or its second check
has just got the id. -/
theorem effect_pending (effect : World.CallEffect w a w' o) (h : Pending w' flag p) :
    Pending w flag p ∧ a ≠ .finish flag ∨ a = .secondCheck flag p.id.asStr := by
  have same (opens : w'.opens = w.opens) : Pending w flag p := by
    unfold Pending at h
    rwa [opens] at h
  cases effect with
  | unrelated calls other => exact .inl ⟨same calls.opens, other flag⟩
  | poisoned other => exact .inl ⟨h, other flag⟩
  | begun request key path method idle flags flagCount opens active statePoisoned =>
    obtain ⟨call, found, returned⟩ := h
    rw [opens, Assoc.lookup_insert_ite] at found
    split_ifs at found
    · rw [← Option.some.inj found] at returned
      cases returned
    · exact .inl ⟨⟨call, found, returned⟩, fun he => by cases he⟩
  | undone request path method idle flags flagCount opens active statePoisoned =>
    exact .inl ⟨same opens, fun he => by cases he⟩
  | flagged request target key flag' method keyed clean notCompleted notInFlight running answer
      flags flagCount opens active statePoisoned =>
    exact .inl ⟨same opens, fun he => by cases he⟩
  | moved flag' call execution running moves =>
    rcases pending_advance moves h with old | ⟨rfl, new⟩
    · exact .inl ⟨old, by cases moves <;> exact fun he => by cases he⟩
    · cases moves with
      | firstCheck here => cases new
      | inspectReturns answer here => cases new
      | secondCheck inspection nextId here =>
        obtain rfl : nextId = p.id.asStr := Option.some.inj new
        exact .inr rfl
  | finished flag' call running flags flagCount opens active statePoisoned =>
    obtain ⟨found, lookup, returned⟩ := h
    rw [opens, Assoc.lookup_erase_ite] at lookup
    split_ifs at lookup with other
    refine .inl ⟨⟨found, lookup, returned⟩, ?_⟩
    intro he
    obtain rfl : flag' = flag := by cases he; rfl
    exact other rfl

end Pending

/-- The ids of projects still to be saved have been generated, are different, and are named
nowhere in the store. -/
structure FreshIds (known : List Value) (tr : List (Action × Output))
    (w : World SqliteStateRepository) : Prop where
  named : ∀ store, w.stateRepository = some store → ∀ v ∈ store.connection.database.projectIds,
    v ∈ known ∨ ∃ id ∈ generatedIds tr, v = .text id
  generated : ∀ flag p, Pending w flag p → p.id.asStr ∈ generatedIds tr
  unnamed : ∀ flag p, Pending w flag p → ∀ store, w.stateRepository = some store →
    .text p.id.asStr ∉ store.connection.database.projectIds
  distinct : ∀ flag flag' p p', Pending w flag p → Pending w flag' p' →
    p.id.asStr = p'.id.asStr → flag = flag'

section Steps

variable {known : List Value} {tr : List (Action × Output)} {streamId : String}
variable {w w' : World SqliteStateRepository} {a : Action} {o : Output}

/-- What a step makes of the ids that the store names. -/
theorem names_of_effect (effect : StoreEffect w w' a) {store' : SqliteStateRepository}
    (h : w'.stateRepository = some store') :
    ∃ store, w.stateRepository = some store ∧ ∀ v ∈ store'.connection.database.projectIds,
      v ∈ store.connection.database.projectIds ∨
        ∃ flag p, a = .finish flag ∧ Pending w flag p ∧ v = .text p.id.asStr := by
  cases effect with
  | kept _ store project =>
    rw [store] at h
    exact ⟨store', h, fun v hv => .inl hv⟩
  | unstored _ store store' =>
    rw [store'] at h
    cases h
  | saved flag p repo pending stateLock repositoryLock store saved project =>
    rw [saved] at h
    obtain rfl := Option.some.inj h
    refine ⟨repo, store, ?_⟩
    intro v hv
    exact (SqliteStateRepository.projectIds_saveProject hv).imp_right
      fun he => ⟨flag, p, rfl, pending, he⟩

theorem FreshIds.step (h : FreshIds known tr w) (ids : NeverRepeated known (tr ++ [(a, o)]))
    (hs : (session SqliteStateRepository streamId).step w a = some (w', o)) :
    FreshIds known (tr ++ [(a, o)]) w' := by
  have calls := World.step_effect hs
  have stored := (step_storage hs).2
  have new {flag : FlagId} {p : Project} (he : a = .secondCheck flag p.id.asStr) :
      p.id.asStr ∉ generatedIds tr ∧ .text p.id.asStr ∉ known :=
    ids.fresh (by rw [he]; rfl)
  refine ⟨?_, ?_, ?_, ?_⟩
  · intro store' hs' v hv
    obtain ⟨store, found, names⟩ := names_of_effect stored hs'
    rcases names v hv with old | ⟨flag, p, _, pending, rfl⟩
    · exact (h.named store found v old).imp_right
        fun ⟨id, before, eq⟩ => ⟨id, mem_generatedIds_snoc before, eq⟩
    · exact .inr ⟨p.id.asStr, mem_generatedIds_snoc (h.generated flag p pending), rfl⟩
  · intro flag p pending
    rcases effect_pending calls pending with ⟨old, _⟩ | he
    · exact mem_generatedIds_snoc (h.generated flag p old)
    · rw [generatedIds_snoc, he]
      exact List.mem_append_right _ (List.mem_singleton_self _)
  · intro flag p pending store' hs' among
    obtain ⟨store, found, names⟩ := names_of_effect stored hs'
    rcases effect_pending calls pending with ⟨old, running⟩ | he
    · rcases names _ among with before | ⟨flag', q, finish, ended, same⟩
      · exact h.unnamed flag p old store found before
      · have one := h.distinct flag flag' p q old ended (Value.text.inj same)
        exact running (one ▸ finish)
    · rcases names _ among with before | ⟨flag', q, finish, _, _⟩
      · rcases h.named store found _ before with first | ⟨id, later, same⟩
        · exact (new he).2 first
        · exact (new he).1 (Value.text.inj same ▸ later)
      · rw [he] at finish
        cases finish
  · intro flag flag' p p' pending pending' same
    rcases effect_pending calls pending with ⟨old, _⟩ | he <;>
      rcases effect_pending calls pending' with ⟨old', _⟩ | he'
    · exact h.distinct flag flag' p p' old old' same
    · exact absurd (same ▸ h.generated flag p old) (new he').1
    · exact absurd (same ▸ h.generated flag' p' old') (new he).1
    · exact (Action.secondCheck.inj (he.symm.trans he')).1

end Steps

end Kesharon.Daemon
