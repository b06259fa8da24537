import Mathlib.Algebra.Group.Nat.Defs
import Mathlib.Data.Nat.Init

namespace Kesharon.Framework

/-- The `width` lowest bytes of a number, most significant first. -/
def toBeBytes : Nat → Nat → List UInt8
  | 0, _ => []
  | width + 1, n => UInt8.ofNat (n / 256 ^ width) :: toBeBytes width n

/-- The number whose digits to base 256 are the bytes, most significant first. -/
def fromBeBytes : List UInt8 → Nat
  | [] => 0
  | b :: bytes => b.toNat * 256 ^ bytes.length + fromBeBytes bytes

@[simp] theorem toBeBytes_length (width n : Nat) : (toBeBytes width n).length = width := by
  induction width with
  | zero => rfl
  | succ width ih => simp [toBeBytes, ih]

theorem fromBeBytes_toBeBytes_mod (width n : Nat) :
    fromBeBytes (toBeBytes width n) = n % 256 ^ width := by
  induction width with
  | zero => simp [toBeBytes, fromBeBytes, Nat.mod_one]
  | succ width ih =>
    simp only [toBeBytes, fromBeBytes, toBeBytes_length, ih]
    change n / 256 ^ width % 256 * 256 ^ width + n % 256 ^ width = _
    rw [Nat.pow_succ, Nat.mod_mul, Nat.mul_comm, Nat.add_comm]

/-- A number that fits in its bytes is read back from them. -/
theorem fromBeBytes_toBeBytes {width n : Nat} (h : n < 256 ^ width) :
    fromBeBytes (toBeBytes width n) = n := by
  rw [fromBeBytes_toBeBytes_mod]
  exact Nat.mod_eq_of_lt h

end Kesharon.Framework
