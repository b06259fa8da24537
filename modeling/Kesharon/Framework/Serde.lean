import Kesharon.Framework.JsonText

namespace Kesharon.Framework

/-- The derived `Serialize` and `Deserialize` of a type, on JSON values. Of the forms that a
derived `Deserialize` accepts, these are the ones a derived `Serialize` produces, with the fields
in any order and with unknown ones. -/
class Serde (α : Type) where
  serialize : α → Json
  deserialize : Json → Option α

export Serde (serialize deserialize)

/-- What is serialised is plain JSON of so many levels, and deserialises to itself. -/
class LawfulSerde (α : Type) [Serde α] where
  levels : Nat
  deserialize_serialize : ∀ v : α, deserialize (serialize v) = some v
  plain : ∀ v : α, (serialize v).plain = true
  depth_le : ∀ v : α, (serialize v).depth ≤ levels

attribute [simp] LawfulSerde.deserialize_serialize LawfulSerde.plain

namespace Serde

instance : Serde String where
  serialize := .string
  deserialize
    | .string s => some s
    | _ => none

instance : Serde Bool where
  serialize := .bool
  deserialize
    | .bool b => some b
    | _ => none

instance : Serde UInt16 where
  serialize n := .natural n.toNat
  deserialize
    | .natural n => if n < 65536 then some (.ofNat n) else none
    | _ => none

instance : Serde UInt64 where
  serialize n := .natural n.toNat
  deserialize
    | .natural n => if n < 18446744073709551616 then some (.ofNat n) else none
    | _ => none

variable {α : Type}

instance [Serde α] : Serde (Option α) where
  serialize
    | none => .null
    | some v => serialize v
  deserialize
    | .null => some none
    | x => (deserialize x).map some

instance [Serde α] : Serde (List α) where
  serialize vs := .array (vs.map serialize)
  deserialize
    | .array xs => xs.mapM deserialize
    | _ => none

/-- The fields of a struct. -/
def structure? : Json → Option (List (String × Json))
  | .object fields => some fields
  | _ => none

/-- The value of a field that occurs at most once. -/
def field? (fields : List (String × Json)) (name : String) : Option (Option Json) :=
  match fields.filter fun field => field.1 = name with
  | [] => some none
  | [field] => some (some field.2)
  | _ => none

def requiredField [Serde α] (fields : List (String × Json)) (name : String) : Option α :=
  match field? fields name with
  | some (some x) => deserialize x
  | _ => none

/-- A field of an optional type may be missing. -/
def optionalField [Serde α] (fields : List (String × Json)) (name : String) : Option (Option α) :=
  match field? fields name with
  | some (some x) => deserialize x
  | some none => some none
  | none => none

/-- The tag of an internally tagged enumeration. -/
def tag? (fields : List (String × Json)) (name : String) : Option String :=
  match field? fields name with
  | some (some (.string tag)) => some tag
  | _ => none

/-- An enumeration without data is the name of its variant. -/
def variant? (names : List (String × α)) : Json → Option α
  | .string name => names.lookup name
  | _ => none

end Serde

namespace LawfulSerde

open Serde

instance : LawfulSerde String := ⟨0, fun _ => rfl, fun _ => rfl, fun _ => Nat.le_refl 0⟩

instance : LawfulSerde Bool := ⟨0, fun _ => rfl, fun _ => rfl, fun _ => Nat.le_refl 0⟩

instance : LawfulSerde UInt16 where
  levels := 0
  deserialize_serialize n := by
    have bound := n.toNat_lt
    simp only [serialize, deserialize]
    rw [if_pos bound, UInt16.ofNat_toNat]
  plain n := by
    have bound := n.toNat_lt
    simp only [serialize, Json.plain, decide_eq_true_eq]
    omega
  depth_le _ := Nat.le_refl 0

instance : LawfulSerde UInt64 where
  levels := 0
  deserialize_serialize n := by
    have bound := n.toNat_lt
    simp only [serialize, deserialize]
    rw [if_pos bound, UInt64.ofNat_toNat]
  plain n := by
    have bound := n.toNat_lt
    simp only [serialize, Json.plain, decide_eq_true_eq]
    omega
  depth_le _ := Nat.le_refl 0

variable {α : Type}

theorem depth_le_of [Serde α] [LawfulSerde α] {n : Nat} (h : levels α ≤ n) (v : α) :
    (serialize v).depth ≤ n :=
  Nat.le_trans (depth_le v) h

theorem plainItems_map [Serde α] [LawfulSerde α] (vs : List α) :
    Json.plainItems (vs.map serialize) = true := by
  induction vs with
  | nil => rfl
  | cons v vs ih => simp [Json.plainItems, ih]

theorem depthItems_map [Serde α] [LawfulSerde α] (vs : List α) :
    Json.depthItems (vs.map serialize) ≤ levels α := by
  induction vs with
  | nil => exact Nat.zero_le _
  | cons v vs ih => exact Nat.max_le.mpr ⟨depth_le v, ih⟩

instance [Serde α] [LawfulSerde α] : LawfulSerde (List α) where
  levels := levels α + 1
  deserialize_serialize vs := by
    change (vs.map serialize).mapM deserialize = some vs
    induction vs with
    | nil => rfl
    | cons v vs ih => simp [ih]
  plain vs := plainItems_map vs
  depth_le vs := Nat.succ_le_succ (depthItems_map vs)

/-- No value of the type is written as `null`. -/
class NonNull (α : Type) [Serde α] : Prop where
  serialize_ne : ∀ v : α, serialize v ≠ .null

theorem deserialize_option [Serde α] {x : Json} (present : x ≠ .null) :
    deserialize x = (deserialize x : Option α).map some := by
  cases x <;> first | exact absurd rfl present | rfl

instance [Serde α] [LawfulSerde α] [NonNull α] : LawfulSerde (Option α) where
  levels := levels α
  deserialize_serialize v := by
    cases v with
    | none => rfl
    | some v =>
      have present := NonNull.serialize_ne v
      change deserialize (serialize v) = some (some v)
      rw [deserialize_option present, deserialize_serialize, Option.map_some]
  plain v := by
    cases v with
    | none => rfl
    | some v => exact plain v
  depth_le v := by
    cases v with
    | none => exact Nat.zero_le _
    | some v => exact depth_le v

instance : NonNull String := ⟨nofun⟩

end LawfulSerde

end Kesharon.Framework
