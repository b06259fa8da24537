import Kesharon.Framework.Sql
import Mathlib.Data.List.Nodup

namespace Kesharon.Framework.Log

section Keys

variable {α κ : Type*} [DecidableEq κ] (key : α → Option κ)

/-- The keys of a log, whose latest entry comes first, in the order in which they first came. -/
def order : List α → List κ
  | [] => []
  | a :: before =>
    match key a with
    | none => order before
    | some k => if k ∈ order before then order before else order before ++ [k]

variable {key}

theorem order_of_none {a : α} {log : List α} (h : key a = none) :
    order key (a :: log) = order key log := by
  simp [order, h]

theorem order_of_some {a : α} {log : List α} {k : κ} (h : key a = some k) :
    order key (a :: log) =
      if k ∈ order key log then order key log else order key log ++ [k] := by
  simp [order, h]

theorem order_nodup (log : List α) : (order key log).Nodup := by
  induction log with
  | nil => exact List.nodup_nil
  | cons a log ih =>
    cases h : key a with
    | none =>
      rw [order_of_none h]
      exact ih
    | some k =>
      rw [order_of_some h]
      by_cases known : k ∈ order key log
      · rw [if_pos known]
        exact ih
      · rw [if_neg known]
        apply List.nodup_append.mpr
        refine ⟨ih, List.nodup_singleton k, ?_⟩
        rintro j among l here rfl
        rw [List.mem_singleton.mp here] at among
        exact known among

theorem mem_order {log : List α} {k : κ} :
    k ∈ order key log ↔ ∃ a ∈ log, key a = some k := by
  induction log with
  | nil => simp [order]
  | cons a log ih =>
    cases h : key a with
    | none =>
      rw [order_of_none h, ih]
      simp [h]
    | some j =>
      rw [order_of_some h]
      by_cases known : j ∈ order key log
      · rw [if_pos known]
        constructor
        · intro old
          obtain ⟨b, among, eq⟩ := ih.mp old
          exact ⟨b, List.mem_cons_of_mem _ among, eq⟩
        · rintro ⟨b, among, eq⟩
          rcases List.mem_cons.mp among with rfl | older
          · obtain rfl := Option.some.inj (h.symm.trans eq)
            exact known
          · exact ih.mpr ⟨b, older, eq⟩
      · rw [if_neg known, List.mem_append, List.mem_singleton, ih]
        simp [h, eq_comm, or_comm]

end Keys

/-- A list whose members come from others is the list of these. -/
theorem exists_map {α β : Type*} {f : β → α} {P : β → Prop} {xs : List α}
    (h : ∀ x ∈ xs, ∃ y, P y ∧ x = f y) : ∃ ys : List β, xs = ys.map f ∧ ∀ y ∈ ys, P y := by
  induction xs with
  | nil => exact ⟨[], rfl, by simp⟩
  | cons x xs ih =>
    obtain ⟨y, here, rfl⟩ := h x (List.mem_cons_self ..)
    obtain ⟨ys, rfl, there⟩ := ih fun x' among => h x' (List.mem_cons_of_mem _ among)
    exact ⟨y :: ys, rfl, by simpa using ⟨here, there⟩⟩

section Tables

open Sql

variable {α ρ κ ι : Type*} [DecidableEq κ] [DecidableEq ι]
variable {key : ρ → κ} {merge : ρ → ρ → ρ} {new : ρ} {rows : List ρ}

/-- A table is determined by the order of its keys and the row under each. -/
theorem rows_eq_filterMap (unique : (rows.map key).Nodup) :
    rows = (rows.map key).filterMap fun k => rows.find? fun r => key r = k := by
  induction rows with
  | nil => rfl
  | cons row rest ih =>
    rw [List.map_cons, List.nodup_cons] at unique
    have later : ∀ k ∈ rest.map key,
        ((row :: rest).find? fun r => key r = k) = rest.find? fun r => key r = k := by
      intro k among
      apply List.find?_cons_of_neg
      simp only [decide_eq_true_eq]
      rintro rfl
      exact unique.1 among
    rw [List.map_cons, List.filterMap_cons, List.find?_cons_of_pos (by simp)]
    rw [List.filterMap_congr later]
    exact congrArg (row :: ·) (ih unique.2)

/-- A row of a table with unique keys is the one found under its key. -/
theorem find?_of_mem (unique : (rows.map key).Nodup) {row : ρ} (among : row ∈ rows) :
    (rows.find? fun r => key r = key row) = some row := by
  induction rows with
  | nil => simp at among
  | cons first rest ih =>
    rw [List.map_cons, List.nodup_cons] at unique
    rcases List.mem_cons.mp among with rfl | later
    · exact List.find?_cons_of_pos (by simp)
    · rw [List.find?_cons_of_neg]
      · exact ih unique.2 later
      · simp only [decide_eq_true_eq]
        intro same
        exact unique.1 (List.mem_map.mpr ⟨row, later, same.symm⟩)

/-- Under unique keys, a row is the only one with its key. -/
theorem filter_key_of_mem (unique : (rows.map key).Nodup) {row : ρ} (among : row ∈ rows) :
    rows.filter (fun r => key r = key row) = [row] := by
  induction rows with
  | nil => simp at among
  | cons first rest ih =>
    rw [List.map_cons, List.nodup_cons] at unique
    rcases List.mem_cons.mp among with rfl | later
    · have none : rest.filter (fun r => key r = key row) = [] := by
        rw [List.filter_eq_nil_iff]
        intro other there same
        exact unique.1 (List.mem_map.mpr ⟨other, there, of_decide_eq_true same⟩)
      rw [List.filter_cons_of_pos (by simp), none]
    · rw [List.filter_cons_of_neg]
      · exact ih unique.2 later
      · simp only [decide_eq_true_eq]
        intro same
        exact unique.1 (List.mem_map.mpr ⟨row, later, same.symm⟩)

/-- An upsert of the row for the latest entry keeps the table's keys those of the log. -/
theorem map_key_upsert_order {entry : α → Option ι} {g : ι → κ} (inj : Function.Injective g)
    (hkey : ∀ row, key (merge row new) = key new) {log : List α} {a : α} {i : ι}
    (here : entry a = some i) (named : key new = g i)
    (keys : rows.map key = (order entry log).map g) :
    (upsert key merge new rows).map key = (order entry (a :: log)).map g := by
  rw [map_key_upsert hkey, keys, named, order_of_some here]
  have known : g i ∈ (order entry log).map g ↔ i ∈ order entry log := List.mem_map_of_injective inj
  by_cases old : i ∈ order entry log
  · rw [if_pos (known.mpr old), if_pos old]
  · rw [if_neg (mt known.mp old), if_neg old, List.map_append]
    rfl

end Tables

end Kesharon.Framework.Log
