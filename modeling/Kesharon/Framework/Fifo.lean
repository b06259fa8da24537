import Mathlib.Data.List.AList
import Mathlib.Data.List.Nodup

namespace Kesharon.Framework

/-- Finite maps with one value for each key. -/
abbrev Assoc (κ ν : Type*) := AList (fun _ : κ => ν)

variable {α κ ν γ : Type*}

theorem Assoc.lookup_insert_ite [DecidableEq κ] (m : Assoc κ ν) (k k' : κ) (v : ν) :
    (m.insert k v).lookup k' = if k' = k then some v else m.lookup k' := by
  by_cases h : k' = k
  · subst k'
    rw [if_pos rfl, AList.lookup_insert]
  · rw [if_neg h, AList.lookup_insert_ne h]

theorem Assoc.lookup_erase_ite [DecidableEq κ] (m : Assoc κ ν) (k k' : κ) :
    (m.erase k).lookup k' = if k' = k then none else m.lookup k' := by
  by_cases h : k' = k
  · subst k'
    rw [if_pos rfl, AList.lookup_erase]
  · rw [if_neg h, AList.lookup_erase_ne h]

theorem Assoc.lookup_erase_eq_some [DecidableEq κ] {m : Assoc κ ν} {k k' : κ} {v : ν} :
    (m.erase k).lookup k' = some v ↔ k' ≠ k ∧ m.lookup k' = some v := by
  rw [lookup_erase_ite]
  by_cases h : k' = k <;> simp [h]

/-- A new key that is taken back leaves the map as it was. -/
theorem Assoc.erase_insert [DecidableEq κ] {m : Assoc κ ν} {k : κ} (h : k ∉ m) (v : ν) :
    (m.insert k v).erase k = m := by
  apply AList.ext
  change List.kerase k (m.insert k v).entries = m.entries
  rw [AList.entries_insert_of_notMem h]
  exact List.kerase_cons_eq rfl

/-- The last `limit` elements. -/
def window (limit : Nat) (xs : List α) : List α := xs.drop (xs.length - limit)

@[simp] theorem window_nil (limit : Nat) : window limit ([] : List α) = [] := by
  simp [window]

theorem window_of_length_le {limit : Nat} {xs : List α} (h : xs.length ≤ limit) :
    window limit xs = xs := by
  have hz : xs.length - limit = 0 := by omega
  rw [window, hz, List.drop_zero]

theorem window_cons {limit : Nat} {x : α} {xs : List α} (h : limit < xs.length + 1) :
    window limit (x :: xs) = window limit xs := by
  have hd : (x :: xs).length - limit = (xs.length - limit) + 1 := by
    simp only [List.length_cons]
    omega
  rw [window, window, hd, List.drop_succ_cons]

/-- Only the current window matters for the next one. -/
theorem window_append_singleton (limit : Nat) (xs : List α) (x : α) :
    window limit (xs ++ [x]) = window limit (window limit xs ++ [x]) := by
  induction xs with
  | nil => simp
  | cons y ys ih =>
    by_cases h : limit < ys.length + 1
    · have hl : limit < (ys ++ [x]).length + 1 := by simp; omega
      rw [List.cons_append, window_cons hl, window_cons h, ih]
    · have hw : window limit (y :: ys) = y :: ys := window_of_length_le (by simp; omega)
      rw [hw]

/-- An element is in the window while fewer than `limit` elements followed it. -/
theorem getElem_mem_window {limit n : Nat} {xs : List α} {x : α} (hx : xs[n]? = some x)
    (hn : xs.length ≤ n + limit) : x ∈ window limit xs := by
  have hlt : n < xs.length := (List.getElem?_eq_some_iff.mp hx).1
  apply List.mem_of_getElem? (i := n - (xs.length - limit))
  rw [window, List.getElem?_drop, ← hx]
  congr 1
  omega

theorem mem_window {limit : Nat} {xs : List α} {x : α} (hx : x ∈ window limit xs) :
    ∃ n : Nat, xs[n]? = some x ∧ xs.length ≤ n + limit := by
  obtain ⟨i, hi⟩ := List.mem_iff_getElem?.mp hx
  rw [window, List.getElem?_drop] at hi
  exact ⟨xs.length - limit + i, hi, by omega⟩

/-- Drop the oldest entries of a queue until at most `limit` are left, forgetting each
dropped key with `forget`. -/
def evict (limit : Nat) (forget : γ → κ → γ) : List κ → γ → List κ × γ
  | [], m => ([], m)
  | expired :: rest, m =>
    if limit < rest.length + 1 then evict limit forget rest (forget m expired)
    else (expired :: rest, m)

/-- Eviction only forgets. -/
theorem mem_of_mem_evict [DecidableEq κ] (limit : Nat) (order : List κ) (m : Assoc κ ν) (k : κ)
    (h : k ∈ (evict limit (fun m k => m.erase k) order m).2) : k ∈ m := by
  induction order generalizing m with
  | nil => exact h
  | cons expired rest ih =>
    unfold evict at h
    split_ifs at h
    · exact (AList.mem_erase.mp (ih _ h)).2
    · exact h

section Ledger

variable [DecidableEq κ] {key : α → κ} {val : α → ν}

/-- A map and its insertion queue hold exactly a list of entries with distinct keys. -/
structure Ledger (key : α → κ) (val : α → ν) (entries : List α) (order : List κ)
    (m : Assoc κ ν) : Prop where
  order_eq : order = entries.map key
  nodup : order.Nodup
  lookup_iff : ∀ k v, m.lookup k = some v ↔ ∃ a ∈ entries, key a = k ∧ val a = v

namespace Ledger

variable {entries : List α} {order : List κ} {m : Assoc κ ν}

theorem empty (key : α → κ) (val : α → ν) : Ledger key val [] [] (∅ : Assoc κ ν) :=
  ⟨rfl, List.nodup_nil, fun k v => by simp⟩

theorem mem_iff (h : Ledger key val entries order m) (k : κ) :
    k ∈ m ↔ ∃ a ∈ entries, key a = k := by
  rw [← AList.lookup_isSome, Option.isSome_iff_exists]
  constructor
  · rintro ⟨v, hv⟩
    obtain ⟨a, ha, hk, _⟩ := (h.lookup_iff k v).mp hv
    exact ⟨a, ha, hk⟩
  · rintro ⟨a, ha, hk⟩
    exact ⟨val a, (h.lookup_iff k (val a)).mpr ⟨a, ha, hk, rfl⟩⟩

/-- The queue lists exactly the keys of the map. -/
theorem mem_order (h : Ledger key val entries order m) (k : κ) : k ∈ order ↔ k ∈ m := by
  rw [h.mem_iff, h.order_eq, List.mem_map]

/-- A fresh key goes to the end of the queue. -/
theorem insert (h : Ledger key val entries order m) (a : α) (fresh : key a ∉ m) :
    Ledger key val (entries ++ [a]) (order ++ [key a]) (m.insert (key a) (val a)) := by
  have hnew : key a ∉ order := fun hin => fresh ((h.mem_order _).mp hin)
  refine ⟨by rw [h.order_eq, List.map_append]; rfl, ?_, ?_⟩
  · rw [List.nodup_append]
    refine ⟨h.nodup, List.nodup_singleton _, ?_⟩
    intro x hx y hy he
    rw [List.mem_singleton] at hy
    exact hnew (hy ▸ he ▸ hx)
  · intro k v
    by_cases hk : key a = k
    · subst k
      have hold : ¬∃ b ∈ entries, key b = key a := fun hb => fresh ((h.mem_iff _).mpr hb)
      rw [AList.lookup_insert]
      constructor
      · intro hv
        exact ⟨a, by simp, rfl, Option.some.inj hv⟩
      · rintro ⟨b, hb, hkb, rfl⟩
        rcases List.mem_append.mp hb with hb | hb
        · exact absurd ⟨b, hb, hkb⟩ hold
        · rw [List.mem_singleton.mp hb]
    · rw [AList.lookup_insert_ne (Ne.symm hk), h.lookup_iff]
      constructor
      · rintro ⟨b, hb, hkv⟩
        exact ⟨b, List.mem_append_left _ hb, hkv⟩
      · rintro ⟨b, hb, hkb, hv⟩
        rcases List.mem_append.mp hb with hb | hb
        · exact ⟨b, hb, hkb, hv⟩
        · rw [List.mem_singleton.mp hb] at hkb
          exact absurd hkb hk

/-- Forgetting the oldest key forgets the oldest entry. -/
theorem tail {a : α} {k : κ} (h : Ledger key val (a :: entries) (k :: order) m) :
    Ledger key val entries order (m.erase k) := by
  obtain ⟨hka, ho⟩ : k = key a ∧ order = entries.map key := by simpa using h.order_eq
  obtain ⟨hk, hn⟩ := List.nodup_cons.mp h.nodup
  refine ⟨ho, hn, fun k' v => ?_⟩
  by_cases he : k' = k
  · subst k'
    rw [AList.lookup_erase]
    constructor
    · intro hv; simp at hv
    · rintro ⟨b, hb, hkb, _⟩
      exact absurd (ho ▸ List.mem_map.mpr ⟨b, hb, hkb⟩) hk
  · rw [AList.lookup_erase_ne he, h.lookup_iff]
    constructor
    · rintro ⟨b, hb, hkb, hv⟩
      rcases List.mem_cons.mp hb with rfl | hb
      · exact absurd (hkb.symm.trans hka.symm) he
      · exact ⟨b, hb, hkb, hv⟩
    · rintro ⟨b, hb, hkv⟩
      exact ⟨b, List.mem_cons_of_mem _ hb, hkv⟩

/-- Eviction keeps the newest entries. -/
theorem evicted (h : Ledger key val entries order m) (limit : Nat) :
    Ledger key val (window limit entries) (evict limit (fun m k => m.erase k) order m).1
      (evict limit (fun m k => m.erase k) order m).2 := by
  induction order generalizing entries m with
  | nil =>
    have he : entries = [] := by simpa using h.order_eq
    subst entries
    simpa [evict] using h
  | cons k rest ih =>
    cases entries with
    | nil => exact absurd h.order_eq (by simp)
    | cons a entries =>
      have hl : rest.length = entries.length := by
        have := congrArg List.length h.order_eq
        simpa using this
      unfold evict
      by_cases hlt : limit < rest.length + 1
      · rw [if_pos hlt, window_cons (by omega)]
        exact ih h.tail
      · rw [if_neg hlt, window_of_length_le (by simp; omega)]
        exact h

/-- Insert a fresh key and evict: the ledger of the last `limit` entries of a history
becomes the ledger of the last `limit` entries of the longer history. -/
theorem push {limit : Nat} {hist : List α} (h : Ledger key val (window limit hist) order m)
    (a : α) (fresh : key a ∉ m) :
    Ledger key val (window limit (hist ++ [a]))
      (evict limit (fun m k => m.erase k) (order ++ [key a]) (m.insert (key a) (val a))).1
      (evict limit (fun m k => m.erase k) (order ++ [key a]) (m.insert (key a) (val a))).2 := by
  rw [window_append_singleton]
  exact (h.insert a fresh).evicted limit

end Ledger

end Ledger

end Kesharon.Framework
