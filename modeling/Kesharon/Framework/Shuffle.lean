import Mathlib.Data.List.Basic

namespace Kesharon.Framework

variable {α σ : Type*}

/-- The elements of two lists in one order that keeps the order of each. -/
inductive Merge : List α → List α → List α → Prop where
  | nil : Merge [] [] []
  | left {xs ys zs : List α} (x : α) (h : Merge xs ys zs) : Merge (x :: xs) ys (x :: zs)
  | right {xs ys zs : List α} (y : α) (h : Merge xs ys zs) : Merge xs (y :: ys) (y :: zs)

/-- An action commutes with each action of a list, so with all of them. -/
theorem foldl_past {f : σ → α → σ} {xs : List α} {y : α}
    (commute : ∀ x ∈ xs, ∀ s, f (f s x) y = f (f s y) x) (s : σ) :
    xs.foldl f (f s y) = f (xs.foldl f s) y := by
  induction xs generalizing s with
  | nil => rfl
  | cons x xs ih =>
    have first := commute x List.mem_cons_self s
    have later := ih (fun z hz => commute z (List.mem_cons_of_mem _ hz)) (f s x)
    rw [List.foldl_cons, List.foldl_cons, ← later, first]

namespace Merge

variable {xs xs' ys zs : List α} {x : α}

theorem symm (h : Merge xs ys zs) : Merge ys xs zs := by
  induction h with
  | nil => exact .nil
  | left x _ ih => exact .right x ih
  | right y _ ih => exact .left y ih

theorem mem_iff (h : Merge xs ys zs) : x ∈ zs ↔ x ∈ xs ∨ x ∈ ys := by
  induction h with
  | nil => simp
  | left z _ ih => rw [List.mem_cons, List.mem_cons, ih, or_assoc]
  | right z _ ih => rw [List.mem_cons, List.mem_cons, ih, or_left_comm]

/-- A merge is cut at any element of its first list. -/
theorem cut (h : Merge (xs ++ x :: xs') ys zs) : ∃ zs₁ zs₂ ys₁ ys₂,
    zs = zs₁ ++ x :: zs₂ ∧ ys = ys₁ ++ ys₂ ∧ Merge xs ys₁ zs₁ ∧ Merge xs' ys₂ zs₂ := by
  generalize whole : xs ++ x :: xs' = ws at h
  induction h generalizing xs with
  | nil => simp at whole
  | left z h ih =>
    cases xs with
    | nil =>
      obtain ⟨rfl, rfl⟩ := List.cons.inj whole
      exact ⟨[], _, [], _, rfl, rfl, .nil, h⟩
    | cons w xs =>
      obtain ⟨rfl, rest⟩ := List.cons.inj whole
      obtain ⟨zs₁, zs₂, ys₁, ys₂, rfl, rfl, first, second⟩ := ih rest
      exact ⟨w :: zs₁, zs₂, ys₁, ys₂, rfl, rfl, .left w first, second⟩
  | right z h ih =>
    obtain ⟨zs₁, zs₂, ys₁, ys₂, rfl, rfl, first, second⟩ := ih whole
    exact ⟨z :: zs₁, zs₂, z :: ys₁, ys₂, rfl, rfl, .right z first, second⟩

/-- Actions of different lists that commute may as well be taken one list after the other. -/
theorem foldl_eq {f : σ → α → σ} (h : Merge xs ys zs)
    (commute : ∀ x ∈ xs, ∀ y ∈ ys, ∀ s, f (f s x) y = f (f s y) x) (s : σ) :
    zs.foldl f s = (xs ++ ys).foldl f s := by
  induction h generalizing s with
  | nil => rfl
  | left x _ ih =>
    exact ih (fun z hz => commute z (List.mem_cons_of_mem _ hz)) (f s x)
  | @right xs ys zs y _ ih =>
    have past := foldl_past (fun x hx => commute x hx y List.mem_cons_self) s
    rw [List.foldl_cons, ih (fun x hx z hz => commute x hx z (List.mem_cons_of_mem _ hz)),
      List.foldl_append, List.foldl_append, past, List.foldl_cons]

/-- What the actions of one list never change can be read off the other list alone. -/
theorem foldl_observe {τ : Type*} {f : σ → α → σ} {g : σ → τ} (h : Merge xs ys zs)
    (observed : ∀ x ∈ xs, ∀ s t, g s = g t → g (f s x) = g (f t x))
    (unseen : ∀ y ∈ ys, ∀ s, g (f s y) = g s) {s t : σ} (same : g s = g t) :
    g (zs.foldl f s) = g (xs.foldl f t) := by
  induction h generalizing s t with
  | nil => exact same
  | left x _ ih =>
    have next := observed x List.mem_cons_self s t same
    exact ih (fun z hz => observed z (List.mem_cons_of_mem _ hz)) unseen next
  | right y _ ih =>
    have next := (unseen y List.mem_cons_self s).trans same
    exact ih observed (fun z hz => unseen z (List.mem_cons_of_mem _ hz)) next

end Merge

end Kesharon.Framework
