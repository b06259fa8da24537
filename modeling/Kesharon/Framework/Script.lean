import Kesharon.Framework.Json

namespace Kesharon.Framework

/-- A value of a script that JSON can write, and `undefined`: of the strings the well-formed ones, of
the numbers the finite ones, of the arrays those without holes. -/
inductive Script where
  | undefined
  | null
  | boolean (b : Bool)
  | number (x : Rat)
  | string (s : String)
  | array (items : List Script)
  | object (fields : List (String × Script))

namespace Script

/-- The number nearest to a natural: of 53 bits, and even if two are equally near. -/
def nearest (n : Nat) : Nat :=
  let shift := n.log2 - 52
  let high := n >>> shift
  let low := n % (1 <<< shift)
  if 2 * low < 1 <<< shift ∨ 2 * low = 1 <<< shift ∧ high % 2 = 0 then high <<< shift
  else (high + 1) <<< shift

mutual

/-- The value `JSON.parse` makes of a JSON value. How it reads a number that is no natural is a
parameter. -/
def ofJson (numerals : String → Rat) : Json → Script
  | .null => null
  | .bool b => boolean b
  | .natural n => number (Rat.ofInt (nearest n))
  | .numeral text => number (numerals text)
  | .string s => string s
  | .array items => array (ofItems numerals items)
  | .object fields => object (ofFields numerals fields)

def ofItems (numerals : String → Rat) : List Json → List Script
  | [] => []
  | x :: xs => ofJson numerals x :: ofItems numerals xs

def ofFields (numerals : String → Rat) : List (String × Json) → List (String × Script)
  | [] => []
  | (k, x) :: xs => (k, ofJson numerals x) :: ofFields numerals xs

end

/-- A property of an object. Of fields with one name, the last one counts. -/
def prop : Script → String → Script
  | object fields, name =>
    fields.foldl (fun found field => if field.1 = name then field.2 else found) undefined
  | _, _ => undefined

def isRecord : Script → Bool
  | object _ => true
  | _ => false

def isString : Script → Bool
  | string _ => true
  | _ => false

def isBoolean : Script → Bool
  | boolean _ => true
  | _ => false

def isNull : Script → Bool
  | null => true
  | _ => false

/-- `===` with a string. -/
def isText (text : String) : Script → Bool
  | string s => s = text
  | _ => false

/-- `===` with a natural number. -/
def isNatural (n : Nat) : Script → Bool
  | number x => x = Rat.ofInt n
  | _ => false

def maxSafeInteger : Nat := 9007199254740991

/-- `Number.isSafeInteger` -/
def isSafeInteger : Script → Bool
  | number x => x.den = 1 ∧ x.num.natAbs ≤ maxSafeInteger
  | _ => false

/-- `>=` with a natural number. -/
def isAtLeast (n : Nat) : Script → Bool
  | number x => Rat.ofInt n ≤ x
  | _ => false

/-- `>` with a natural number. -/
def isAbove (n : Nat) : Script → Bool
  | number x => Rat.ofInt n < x
  | _ => false

/-- `Array.isArray` and `every` -/
def isArrayOf (p : Script → Bool) : Script → Bool
  | array items => items.all p
  | _ => false

/-- Naturals of at most 53 bits are numbers. -/
theorem nearest_of_le {n : Nat} (h : n ≤ maxSafeInteger) : nearest n = n := by
  have small : n.log2 ≤ 52 := by
    by_cases zero : n = 0
    · subst zero
      decide
    · have bound := (Nat.log2_lt (k := 53) zero).mpr (Nat.lt_of_le_of_lt h (by decide))
      omega
  unfold nearest
  simp [Nat.sub_eq_zero_of_le small, Nat.mod_one]

/-- A natural of more bits is near to none that is safe. -/
theorem nearest_of_lt {n : Nat} (h : maxSafeInteger < n) : maxSafeInteger < nearest n := by
  have large : 2 ^ 53 ≤ n := h
  have nonzero : n ≠ 0 := by omega
  have bits : 53 ≤ n.log2 := (Nat.le_log2 nonzero).mpr large
  obtain ⟨shift, width⟩ : ∃ shift, n.log2 = 53 + shift := ⟨n.log2 - 53, by omega⟩
  have reach : 2 ^ (53 + shift) ≤ n := (Nat.le_log2 nonzero).mp (Nat.le_of_eq width.symm)
  have gap : n.log2 - 52 = shift + 1 := by omega
  have high : 2 ^ 52 ≤ n / 2 ^ (shift + 1) := by
    rw [Nat.le_div_iff_mul_le (Nat.two_pow_pos _), ← Nat.pow_add]
    have exponent : 52 + (shift + 1) = 53 + shift := by omega
    rw [exponent]
    exact reach
  have wide {m : Nat} (h : 2 ^ 52 ≤ m) : maxSafeInteger < m * 2 ^ (shift + 1) := by
    have least : 2 ^ 1 ≤ 2 ^ (shift + 1) := Nat.pow_le_pow_right (by decide) (by omega)
    exact Nat.lt_of_lt_of_le (by decide) (Nat.mul_le_mul h least)
  unfold nearest
  simp only [gap, Nat.shiftRight_eq_div_pow, Nat.shiftLeft_eq]
  split_ifs
  · exact wide high
  · exact wide (Nat.le_succ_of_le high)

theorem number_of_le {n : Nat} (h : n ≤ maxSafeInteger) (numerals : String → Rat) :
    ofJson numerals (.natural n) = number (Rat.ofInt n) := by
  rw [ofJson, nearest_of_le h]

theorem isSafeInteger_of_le {n : Nat} (h : n ≤ maxSafeInteger) :
    isSafeInteger (number (Rat.ofInt n)) = true := by
  simpa [isSafeInteger, Rat.ofInt] using h

theorem isAtLeast_of_le {m n : Nat} (h : m ≤ n) : isAtLeast m (number (Rat.ofInt n)) = true := by
  have le : ((m : Int) : Rat) ≤ ((n : Int) : Rat) := Rat.intCast_le_intCast.mpr (by omega)
  exact decide_eq_true le

theorem isAbove_of_lt {m n : Nat} (h : m < n) : isAbove m (number (Rat.ofInt n)) = true := by
  have lt : ((m : Int) : Rat) < ((n : Int) : Rat) := Rat.intCast_lt_intCast.mpr (by omega)
  exact decide_eq_true lt

section Guards

variable {value : Script}

theorem isRecord_iff : value.isRecord = true ↔ ∃ fields, value = object fields := by
  cases value <;> simp [isRecord]

theorem isString_iff : value.isString = true ↔ ∃ s, value = string s := by
  cases value <;> simp [isString]

theorem isBoolean_iff : value.isBoolean = true ↔ ∃ b, value = boolean b := by
  cases value <;> simp [isBoolean]

theorem isNull_iff : value.isNull = true ↔ value = null := by
  cases value <;> simp [isNull]

theorem isText_iff {text : String} : value.isText text = true ↔ value = string text := by
  cases value <;> simp [isText]

theorem isNatural_iff {n : Nat} : value.isNatural n = true ↔ value = number (Rat.ofInt n) := by
  cases value <;> simp [isNatural]

theorem isArrayOf_iff {p : Script → Bool} :
    value.isArrayOf p = true ↔ ∃ items, value = array items ∧ items.all p = true := by
  cases value <;> simp [isArrayOf]

/-- Safe integers that are not negative are naturals. -/
theorem natural_of_safe (safe : value.isSafeInteger = true) (least : value.isAtLeast 0 = true) :
    ∃ n ≤ maxSafeInteger, value = number (Rat.ofInt n) := by
  cases value with
  | number x =>
    have whole : x.den = 1 ∧ x.num.natAbs ≤ maxSafeInteger := of_decide_eq_true safe
    have positive : Rat.ofInt (0 : Nat) ≤ x := of_decide_eq_true least
    have num : x = Rat.ofInt x.num := Rat.ext rfl whole.1
    have sign : 0 ≤ x.num := Rat.num_nonneg.mpr positive
    refine ⟨x.num.natAbs, whole.2, ?_⟩
    rw [Int.natAbs_of_nonneg sign, ← num]
  | _ => simp [isSafeInteger] at safe

theorem isAbove_zero_iff {n : Nat} : isAbove 0 (number (Rat.ofInt n)) = true ↔ 0 < n := by
  constructor
  · intro above
    have lt : ((0 : Int) : Rat) < ((n : Int) : Rat) := of_decide_eq_true above
    have := Rat.intCast_lt_intCast.mp lt
    omega
  · exact isAbove_of_lt

theorem isAtLeast_of_isAbove (above : value.isAbove 0 = true) : value.isAtLeast 0 = true := by
  cases value with
  | number x => exact decide_eq_true (Rat.le_of_lt (of_decide_eq_true above))
  | _ => simp [isAbove] at above

end Guards

end Script

end Kesharon.Framework
