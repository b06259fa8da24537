import Mathlib.Data.List.Induction

namespace Kesharon.Framework

/-- A labelled machine. An action that is not enabled in a state has no step;
an enabled one yields the next state and what the environment observes. -/
structure Machine (σ α ω : Type*) where
  step : σ → α → Option (σ × ω)

namespace Machine

variable {σ α ω τ : Type*} {M : Machine σ α ω} {ok ok' : σ → α → σ → Prop}

/-- Finite runs all of whose steps satisfy `ok`, with actions and outputs in order. -/
inductive Run (M : Machine σ α ω) (ok : σ → α → σ → Prop) : σ → List (α × ω) → σ → Prop where
  | nil (s : σ) : Run M ok s [] s
  | snoc {s t u : σ} {tr : List (α × ω)} {a : α} {o : ω} (before : Run M ok s tr t)
      (allowed : ok t a u) (step : M.step t a = some (u, o)) : Run M ok s (tr ++ [(a, o)]) u

/-- No condition on the steps of a run. -/
def anyStep (_ : σ) (_ : α) (_ : σ) : Prop := True

instance (s : σ) (a : α) (t : σ) : Decidable (anyStep s a t) := .isTrue trivial

theorem Run.one {s t : σ} {a : α} {o : ω} (hok : ok s a t) (h : M.step s a = some (t, o)) :
    M.Run ok s [(a, o)] t :=
  .snoc (.nil s) hok h

theorem Run.append {s t u : σ} {xs ys : List (α × ω)}
    (h : M.Run ok s xs t) (k : M.Run ok t ys u) : M.Run ok s (xs ++ ys) u := by
  induction k with
  | nil => simpa using h
  | snoc _ allowed step ih =>
    rw [← List.append_assoc]
    exact .snoc ih allowed step

theorem Run.cons {s t u : σ} {a : α} {o : ω} {tr : List (α × ω)} (hok : ok s a t)
    (h : M.step s a = some (t, o)) (k : M.Run ok t tr u) : M.Run ok s ((a, o) :: tr) u :=
  (Run.one hok h).append k

/-- A run under a condition is a run under a weaker one. -/
theorem Run.mono {s t : σ} {tr : List (α × ω)} (h : M.Run ok s tr t)
    (weaker : ∀ s a t, ok s a t → ok' s a t) : M.Run ok' s tr t := by
  induction h with
  | nil => exact .nil _
  | snoc _ allowed step ih => exact .snoc ih (weaker _ _ _ allowed) step

/-- The last step of a non-empty run. -/
theorem Run.last {s u : σ} {tr : List (α × ω)} {a : α} {o : ω}
    (h : M.Run ok s (tr ++ [(a, o)]) u) :
    ∃ t, M.Run ok s tr t ∧ ok t a u ∧ M.step t a = some (u, o) := by
  generalize he : tr ++ [(a, o)] = whole at h
  cases h with
  | nil => simp at he
  | @snoc t _ tr' a' o' before allowed step =>
    obtain ⟨rfl, hl⟩ := List.append_inj' he rfl
    obtain ⟨rfl, rfl⟩ : a = a' ∧ o = o' := by simpa using hl
    exact ⟨t, before, allowed, step⟩

/-- A run can be cut at any point of its trace. -/
theorem Run.split {s u : σ} {xs ys : List (α × ω)} (h : M.Run ok s (xs ++ ys) u) :
    ∃ t, M.Run ok s xs t ∧ M.Run ok t ys u := by
  induction ys using List.reverseRecOn generalizing u with
  | nil => exact ⟨u, by simpa using h, .nil u⟩
  | append_singleton ys p ih =>
    obtain ⟨a, o⟩ := p
    rw [← List.append_assoc] at h
    obtain ⟨v, hv, hok, hs⟩ := h.last
    obtain ⟨t, ht, hk⟩ := ih hv
    exact ⟨t, ht, .snoc hk hok hs⟩

/-- The step taken at a position of the trace, between the two halves of the run. -/
theorem Run.at_step {s u : σ} {xs ys : List (α × ω)} {a : α} {o : ω}
    (h : M.Run ok s (xs ++ (a, o) :: ys) u) :
    ∃ t t', M.Run ok s xs t ∧ ok t a t' ∧ M.step t a = some (t', o) ∧ M.Run ok t' ys u := by
  have h' : M.Run ok s (xs ++ [(a, o)] ++ ys) u := by simpa using h
  obtain ⟨t', hx, hy⟩ := h'.split
  obtain ⟨t, ht, hok, hs⟩ := hx.last
  exact ⟨t, t', ht, hok, hs, hy⟩

theorem Run.at_index {s u : σ} {tr : List (α × ω)} {a : α} {o : ω} {i : Nat}
    (h : M.Run ok s tr u) (hi : tr[i]? = some (a, o)) :
    ∃ xs ys t t', tr = xs ++ (a, o) :: ys ∧ xs.length = i ∧ M.Run ok s xs t ∧ ok t a t' ∧
      M.step t a = some (t', o) ∧ M.Run ok t' ys u := by
  obtain ⟨hlt, he⟩ := List.getElem?_eq_some_iff.mp hi
  have cut : tr = tr.take i ++ (a, o) :: tr.drop (i + 1) := by
    rw [← he, ← List.drop_eq_getElem_cons hlt, List.take_append_drop]
  rw [cut] at h
  obtain ⟨t, t', before, hok, hs, after⟩ := h.at_step
  exact ⟨_, _, t, t', cut, by simp; omega, before, hok, hs, after⟩

/-- What one allowed step preserves, a run preserves. -/
theorem Run.invariant {I : σ → Prop} {s t : σ} {tr : List (α × ω)} (h : M.Run ok s tr t)
    (start : I s) (keep : ∀ t a u o, I t → ok t a u → M.step t a = some (u, o) → I u) : I t := by
  induction h with
  | nil => exact start
  | snoc _ allowed step ih => exact keep _ _ _ _ ih allowed step

/-- The same for a relation between the trace so far and the state. -/
theorem Run.history {P : List (α × ω) → σ → Prop} {s t : σ} {tr : List (α × ω)}
    (h : M.Run ok s tr t) (start : P [] s)
    (keep : ∀ tr t a u o, P tr t → ok t a u → M.step t a = some (u, o) → P (tr ++ [(a, o)]) u) :
    P tr t := by
  induction h with
  | nil => exact start
  | snoc _ allowed step ih => exact keep _ _ _ _ _ ih allowed step

/-- If each step of a machine is a step of another one or none, seen from there, then a run is a
run of the other one. -/
theorem Run.project {β ψ : Type*} {N : Machine τ β ψ} {f : σ → τ} {g : α × ω → Option (β × ψ)}
    {s t : σ} {tr : List (α × ω)} (h : M.Run ok s tr t)
    (follows : ∀ t a u o, M.step t a = some (u, o) → N.Run anyStep (f t) (g (a, o)).toList (f u)) :
    N.Run anyStep (f s) (tr.filterMap g) (f t) := by
  induction h with
  | nil => exact .nil _
  | @snoc t u tr a o _ _ step ih =>
    have last : [(a, o)].filterMap g = (g (a, o)).toList := by
      cases seen : g (a, o) with
      | none => simp [seen]
      | some p => simp [seen]
    rw [List.filterMap_append, last]
    exact ih.append (follows _ _ _ _ step)

/-- If an observation of the state follows the outputs step by step, then over a run it is
the fold of the outputs. -/
theorem Run.foldl_observe {f : σ → τ} {g : τ → α × ω → τ} {I : σ → Prop} {s t : σ}
    {tr : List (α × ω)} (h : M.Run ok s tr t) (start : I s)
    (keep : ∀ t a u o, I t → ok t a u → M.step t a = some (u, o) → I u)
    (follows : ∀ t a u o, I t → ok t a u → M.step t a = some (u, o) → f u = g (f t) (a, o)) :
    f t = tr.foldl g (f s) := by
  have both : I t ∧ f t = tr.foldl g (f s) := by
    apply h.history (P := fun tr t => I t ∧ f t = tr.foldl g (f s)) ⟨start, rfl⟩
    rintro tr t a u o ⟨hi, hf⟩ hok hs
    refine ⟨keep _ _ _ _ hi hok hs, ?_⟩
    rw [List.foldl_append, follows _ _ _ _ hi hok hs, hf]
    rfl
  exact both.2

/-- The actions of a run determine its outputs and where it ends. -/
theorem Run.unique {s t u : σ} {xs ys : List (α × ω)} (h : M.Run ok s xs t) (k : M.Run ok' s ys u)
    (same : xs.map Prod.fst = ys.map Prod.fst) : xs = ys ∧ t = u := by
  induction h generalizing ys u with
  | nil =>
    generalize none : [] = trace at same
    cases k with
    | nil => exact ⟨none.symm, rfl⟩
    | snoc _ _ _ =>
      rw [← none] at same
      simp at same
  | @snoc t v xs a o _ _ step ih =>
    cases k with
    | nil => simp at same
    | @snoc t' _ ys' a' o' before _ step' =>
      rw [List.map_append, List.map_append] at same
      obtain ⟨front, last⟩ := List.append_inj' same rfl
      obtain ⟨rfl, rfl⟩ := ih before front
      obtain rfl : a = a' := by simpa using last
      rw [step] at step'
      obtain ⟨rfl, rfl⟩ := Prod.mk.inj (Option.some.inj step')
      exact ⟨rfl, rfl⟩

/-- Run a list of actions, as long as each is enabled and allowed. -/
def exec (M : Machine σ α ω) (ok : σ → α → σ → Prop) [∀ s a t, Decidable (ok s a t)] :
    σ → List α → Option (List (α × ω) × σ)
  | s, [] => some ([], s)
  | s, a :: as =>
    match M.step s a with
    | none => none
    | some (t, o) =>
      if ok s a t then (M.exec ok t as).map fun r => ((a, o) :: r.1, r.2) else none

theorem run_of_exec [∀ s a t, Decidable (ok s a t)] {s u : σ} {as : List α}
    {tr : List (α × ω)} (h : M.exec ok s as = some (tr, u)) : M.Run ok s tr u := by
  induction as generalizing s tr with
  | nil =>
    obtain ⟨rfl, rfl⟩ : [] = tr ∧ s = u := by simpa [exec] using h
    exact .nil s
  | cons a as ih =>
    cases hs : M.step s a with
    | none => simp [exec, hs] at h
    | some p =>
      obtain ⟨t, o⟩ := p
      by_cases hok : ok s a t
      · simp only [exec, hs, hok, if_true, Option.map_eq_some_iff, Prod.mk.injEq] at h
        obtain ⟨⟨tr', u'⟩, hr, rfl, rfl⟩ := h
        exact .cons hok hs (ih hr)
      · simp [exec, hs, hok] at h

/-- A list of actions that can be executed is a run, ending where the execution ends. -/
theorem run_of_exec_isSome (M : Machine σ α ω) (ok : σ → α → σ → Prop)
    [∀ s a t, Decidable (ok s a t)] (s : σ) (as : List α) (h : (M.exec ok s as).isSome) :
    M.Run ok s ((M.exec ok s as).get h).1 ((M.exec ok s as).get h).2 :=
  run_of_exec (Option.some_get h).symm

end Machine

end Kesharon.Framework
