import Mathlib.Tactic.SplitIfs

namespace Kesharon.Framework

/-- A panic of a program, as a value. -/
inductive Panic where
  | notCharBoundary (index : Nat)
  deriving DecidableEq, Repr

/-- The bytes of a text. -/
def utf8 (s : String) : List UInt8 := s.toByteArray.data.toList

theorem toByteArray_utf8 (s : String) : (utf8 s).toByteArray = s.toByteArray := by
  apply ByteArray.ext
  rw [List.data_toByteArray]
  exact Array.toArray_toList

theorem fromUTF8?_utf8 (s : String) : String.fromUTF8? (utf8 s).toByteArray = some s := by
  rw [toByteArray_utf8]
  unfold String.fromUTF8?
  rw [dif_pos s.isValidUTF8]
  rfl

theorem utf8_of_fromUTF8? {bytes : List UInt8} {s : String}
    (h : String.fromUTF8? bytes.toByteArray = some s) : utf8 s = bytes := by
  unfold String.fromUTF8? at h
  split_ifs at h
  obtain rfl := Option.some.inj h
  simp [utf8, String.fromUTF8]

theorem utf8_append (s t : String) : utf8 (s ++ t) = utf8 s ++ utf8 t := by
  simp [utf8]

/-- `str::is_char_boundary`: an end of the text, or a byte that does not continue a character. -/
def isCharBoundary (s : String) (index : Nat) : Bool :=
  if index = 0 then true
  else
    match (utf8 s)[index]? with
    | none => index = (utf8 s).length
    | some byte => byte < 0x80 ∨ 0xC0 ≤ byte

/-- `&s[start..stop]`, for `start ≤ stop`. -/
def slice (s : String) (start stop : Nat) : Except Panic (List UInt8) :=
  if isCharBoundary s start = false then .error (.notCharBoundary start)
  else if isCharBoundary s stop = false then .error (.notCharBoundary stop)
  else .ok (((utf8 s).drop start).take (stop - start))

inductive IntErrorKind where
  | empty
  | invalidDigit
  | posOverflow
  deriving DecidableEq, Repr

/-- `char::to_digit` of an ASCII byte. -/
def toDigit (radix : Nat) (byte : UInt8) : Option Nat :=
  let value :=
    if 0x30 ≤ byte ∧ byte ≤ 0x39 then some (byte.toNat - 0x30)
    else if 0x41 ≤ byte ∧ byte ≤ 0x5A then some (byte.toNat - 0x41 + 10)
    else if 0x61 ≤ byte ∧ byte ≤ 0x7A then some (byte.toNat - 0x61 + 10)
    else none
  value.filter fun digit => digit < radix

/-- The digits that are left, behind a number. -/
def readDigits (max radix : Nat) : Nat → List UInt8 → Except IntErrorKind Nat
  | number, [] => .ok number
  | number, byte :: bytes =>
    match toDigit radix byte with
    | none => .error .invalidDigit
    | some digit =>
      if max < number * radix + digit then .error .posOverflow
      else readDigits max radix (number * radix + digit) bytes

/-- `from_str_radix` of an unsigned type: one leading `+` is allowed, not alone. -/
def fromStrRadix (max radix : Nat) (bytes : List UInt8) : Except IntErrorKind Nat :=
  match bytes with
  | [] => .error .empty
  | [0x2B] => .error .invalidDigit
  | 0x2B :: digits => readDigits max radix 0 digits
  | digits => readDigits max radix 0 digits

@[simp] theorem slice_error_iff {s : String} {start stop : Nat} :
    (∃ p, slice s start stop = .error p) ↔
      isCharBoundary s start = false ∨ isCharBoundary s stop = false := by
  unfold slice
  split_ifs with h₁ h₂
  · simp [h₁]
  · simp [h₂]
  · simp [h₁, h₂]

end Kesharon.Framework
