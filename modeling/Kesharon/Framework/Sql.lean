import Mathlib.Data.List.Basic
import Mathlib.Tactic.SplitIfs

namespace Kesharon.Framework

section Fallible

variable {ε δ α β : Type}

/-- A fallible computation in two parts succeeds where both do. -/
theorem bind_eq_ok {x : Except ε α} {f : α → Except ε β} {b : β} :
    x >>= f = .ok b ↔ ∃ a, x = .ok a ∧ f a = .ok b := by
  cases x <;> simp [bind, Except.bind]

theorem mapError_eq_ok {x : Except ε α} {f : ε → δ} {a : α} : x.mapError f = .ok a ↔ x = .ok a := by
  cases x <;> simp [Except.mapError]

end Fallible

end Kesharon.Framework

namespace Kesharon.Framework.Sql

/-- A cell as SQLite stores it; a real is the rational number its double stands for. Text that is not
UTF-8, which no reader takes for a `String`, is a blob here. -/
inductive Value where
  | null
  | integer (n : Int64)
  | real (x : Rat)
  | text (s : String)
  | blob (bytes : List UInt8)
  deriving DecidableEq

namespace Value

def typeName : Value → String
  | .null => "Null"
  | .integer _ => "Integer"
  | .real _ => "Real"
  | .text _ => "Text"
  | .blob _ => "Blob"

/-- The order of `ORDER BY`: nulls, numbers, texts, blobs. -/
def le : Value → Value → Bool
  | .null, _ => true
  | .integer m, .integer n => m ≤ n
  | .integer m, .real y => (m.toInt : Rat) ≤ y
  | .real x, .integer n => x ≤ (n.toInt : Rat)
  | .real x, .real y => x ≤ y
  | .integer _, .text _ | .real _, .text _ => true
  | .text s, .text t => s ≤ t
  | .integer _, .blob _ | .real _, .blob _ | .text _, .blob _ => true
  | .blob x, .blob y => x ≤ y
  | _, _ => false

def invalidType (index : Nat) (name : String) (v : Value) : String :=
  "Invalid column type " ++ v.typeName ++ " at index: " ++ Nat.repr index ++ ", name: " ++ name

def getText (index : Nat) (name : String) : Value → Except String String
  | .text s => .ok s
  | v => .error (v.invalidType index name)

def getInteger (index : Nat) (name : String) : Value → Except String Int64
  | .integer n => .ok n
  | v => .error (v.invalidType index name)

def getOptional (index : Nat) (name : String) : Value → Except String (Option Int64)
  | .null => .ok none
  | .integer n => .ok (some n)
  | v => .error (v.invalidType index name)

/-- An optional integer as a parameter. -/
def ofOptional : Option Int64 → Value
  | none => .null
  | some n => .integer n

@[simp] theorem getText_text (index : Nat) (name s : String) :
    getText index name (.text s) = .ok s := rfl

@[simp] theorem getInteger_integer (index : Nat) (name : String) (n : Int64) :
    getInteger index name (.integer n) = .ok n := rfl

@[simp] theorem getOptional_ofOptional (index : Nat) (name : String) (n : Option Int64) :
    getOptional index name (ofOptional n) = .ok n := by
  cases n <;> rfl

end Value

/-- The first row of a result. -/
def firstRow {ρ α : Type*} (get : ρ → Except String α) : Option ρ → Except String α
  | some row => get row
  | none => .error "Query returned no rows"

section Tables

variable {ρ κ : Type*} [DecidableEq κ]

/-- `INSERT … ON CONFLICT(key) DO UPDATE`: merge into the row with the same key, else append.
A table is the list of its rows in the order of their row ids. -/
def upsert (key : ρ → κ) (merge : ρ → ρ → ρ) (new : ρ) : List ρ → List ρ
  | [] => [new]
  | row :: rest =>
    if key row = key new then merge row new :: rest else row :: upsert key merge new rest

variable {key : ρ → κ} {merge : ρ → ρ → ρ} {new : ρ}

/-- The row that an upsert leaves under its key. -/
theorem find?_upsert_self (new : ρ) (hkey : ∀ row, key (merge row new) = key new) (rows : List ρ) :
    (upsert key merge new rows).find? (fun r => key r = key new) =
      some (((rows.find? fun r => key r = key new).map fun row => merge row new).getD new) := by
  induction rows with
  | nil => simp [upsert]
  | cons row rest ih =>
    unfold upsert
    by_cases h : key row = key new
    · simp [h, hkey]
    · rw [if_neg h, List.find?_cons_of_neg (by simpa using h),
        List.find?_cons_of_neg (by simpa using h), ih]

/-- An upsert that changes nothing in the row it finds changes nothing. -/
theorem upsert_of_find? {rows : List ρ} {row : ρ}
    (found : rows.find? (fun r => key r = key new) = some row) (same : merge row new = row) :
    upsert key merge new rows = rows := by
  induction rows with
  | nil => simp at found
  | cons first rest ih =>
    unfold upsert
    by_cases h : key first = key new
    · rw [List.find?_cons_of_pos (by simpa using h)] at found
      rw [if_pos h, Option.some.inj found, same]
    · rw [List.find?_cons_of_neg (by simpa using h)] at found
      rw [if_neg h, ih found]

/-- Without a merge the new row itself is left. -/
theorem find?_upsert_replace (key : ρ → κ) (new : ρ) (rows : List ρ) :
    (upsert key (fun _ new => new) new rows).find? (fun r => key r = key new) = some new := by
  rw [find?_upsert_self new (fun _ => rfl)]
  cases rows.find? fun r => key r = key new <;> rfl

/-- The rows under other keys stay as they are. -/
theorem find?_upsert_ne (hkey : ∀ row, key (merge row new) = key new) {k : κ} (h : k ≠ key new)
    (rows : List ρ) :
    (upsert key merge new rows).find? (fun r => key r = k) = rows.find? fun r => key r = k := by
  induction rows with
  | nil => simp [upsert, h.symm]
  | cons row rest ih =>
    unfold upsert
    by_cases same : key row = key new
    · rw [if_pos same, List.find?_cons_of_neg (by simpa [hkey] using h.symm),
        List.find?_cons_of_neg (by simpa [same] using h.symm)]
    · rw [if_neg same, List.find?_cons, List.find?_cons, ih]

/-- A known key keeps its place. -/
theorem map_key_upsert (hkey : ∀ row, key (merge row new) = key new) (rows : List ρ) :
    (upsert key merge new rows).map key =
      if key new ∈ rows.map key then rows.map key else rows.map key ++ [key new] := by
  induction rows with
  | nil => simp [upsert]
  | cons row rest ih =>
    unfold upsert
    by_cases same : key row = key new
    · simp [same, hkey]
    · rw [if_neg same, List.map_cons, ih]
      simp only [List.map_cons, List.mem_cons, Ne.symm same, false_or]
      split_ifs <;> rfl

/-- Every row of the table was there, or is the new row, alone under its key or merged. -/
theorem mem_upsert {rows : List ρ} {row : ρ} (h : row ∈ upsert key merge new rows) :
    row ∈ rows ∨ (row = new ∧ key new ∉ rows.map key) ∨
      ∃ old ∈ rows, key old = key new ∧ row = merge old new := by
  induction rows with
  | nil => exact .inr (.inl ⟨List.mem_singleton.mp h, by simp⟩)
  | cons first rest ih =>
    unfold upsert at h
    split_ifs at h with same
    · rcases List.mem_cons.mp h with merged | other
      · exact .inr (.inr ⟨first, by simp, same, merged⟩)
      · exact .inl (by simp [other])
    · rcases List.mem_cons.mp h with here | later
      · exact .inl (by simp [here])
      · rcases ih later with old | ⟨fresh, absent⟩ | ⟨old, among, sameKey, merged⟩
        · exact .inl (by simp [old])
        · refine .inr (.inl ⟨fresh, ?_⟩)
          rw [List.map_cons, List.mem_cons, not_or]
          exact ⟨Ne.symm same, absent⟩
        · exact .inr (.inr ⟨old, by simp [among], sameKey, merged⟩)

/-- An upsert that merges into the new row replaces what was under its key, and nothing else. -/
theorem mem_upsert_iff {rows : List ρ} (unique : (rows.map key).Nodup)
    (merges : ∀ row ∈ rows, key row = key new → merge row new = new)
    (row : ρ) :
    row ∈ upsert key merge new rows ↔ row = new ∨ row ∈ rows ∧ key row ≠ key new := by
  induction rows with
  | nil => simp [upsert]
  | cons first rest ih =>
    rw [List.map_cons, List.nodup_cons] at unique
    have further := ih unique.2 fun other among => merges other (List.mem_cons_of_mem _ among)
    unfold upsert
    split_ifs with same
    · have others : ∀ other ∈ rest, key other ≠ key new := by
        intro other among eq
        apply unique.1
        rw [same, ← eq]
        exact List.mem_map.mpr ⟨other, among, rfl⟩
      rw [merges first (List.mem_cons_self ..) same, List.mem_cons, List.mem_cons]
      constructor
      · rintro (here | later)
        · exact .inl here
        · exact .inr ⟨.inr later, others row later⟩
      · rintro (here | ⟨rfl | later, other⟩)
        · exact .inl here
        · exact absurd same other
        · exact .inr later
    · rw [List.mem_cons, further, List.mem_cons]
      constructor
      · rintro (rfl | here | ⟨later, other⟩)
        · exact .inr ⟨.inl rfl, same⟩
        · exact .inl here
        · exact .inr ⟨.inr later, other⟩
      · rintro (here | ⟨rfl | later, other⟩)
        · exact .inr (.inl here)
        · exact .inl rfl
        · exact .inr (.inr ⟨later, other⟩)

/-- A selection that leaves out the key of an upsert does not see it. -/
theorem filter_upsert {p : ρ → Bool} (hnew : p new = false) {rows : List ρ}
    (out : ∀ row ∈ rows, key row = key new → p row = false ∧ p (merge row new) = false) :
    (upsert key merge new rows).filter p = rows.filter p := by
  induction rows with
  | nil => simp [upsert, hnew]
  | cons first rest ih =>
    have further := ih fun other among => out other (List.mem_cons_of_mem _ among)
    unfold upsert
    split_ifs with same
    · obtain ⟨before, after⟩ := out first (List.mem_cons_self ..) same
      rw [List.filter_cons_of_neg (by simp [after]), List.filter_cons_of_neg (by simp [before])]
    · simp only [List.filter_cons, further]

end Tables

end Kesharon.Framework.Sql
