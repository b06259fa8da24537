import Kesharon.Framework.Text

namespace Kesharon.Framework

/-- `byte` is a hexadecimal digit, in either case, of the value `d`. -/
inductive HexDigit : (byte : UInt8) → (d : Nat) → Prop where
  | decimal {byte : UInt8} (low : 0x30 ≤ byte.toNat) (high : byte.toNat ≤ 0x39) :
      HexDigit byte (byte.toNat - 0x30)
  | upper {byte : UInt8} (low : 0x41 ≤ byte.toNat) (high : byte.toNat ≤ 0x46) :
      HexDigit byte (byte.toNat - 0x41 + 10)
  | lower {byte : UInt8} (low : 0x61 ≤ byte.toNat) (high : byte.toNat ≤ 0x66) :
      HexDigit byte (byte.toNat - 0x61 + 10)

/-- The digits of a text, two for each byte. -/
inductive Spells : (text bytes : List UInt8) → Prop where
  | nil : Spells [] []
  | cons {high low : UInt8} {h l : Nat} {text bytes : List UInt8} (digits : HexDigit high h)
      (digit : HexDigit low l) (rest : Spells text bytes) :
      Spells (high :: low :: text) (UInt8.ofNat (h * 16 + l) :: bytes)

/-- `u8::to_ascii_lowercase` -/
def toAsciiLowercase (byte : UInt8) : UInt8 :=
  if 0x41 ≤ byte ∧ byte ≤ 0x5A then byte + 0x20 else byte

/-- The digit `{:x}` writes for a value below 16. -/
def lowerDigit (d : Nat) : UInt8 := UInt8.ofNat (if d < 10 then 0x30 + d else 0x61 + (d - 10))

/-- The digits `{:02x}` writes for a byte. -/
def lowerHex (byte : UInt8) : List UInt8 :=
  [lowerDigit (byte.toNat / 16), lowerDigit (byte.toNat % 16)]

theorem HexDigit.lt {byte : UInt8} {d : Nat} (h : HexDigit byte d) : d < 16 := by
  cases h <;> omega

/-- `char::to_digit` knows the digits of base 16, and no other byte. -/
theorem toDigit_eq_some {byte : UInt8} {d : Nat} : toDigit 16 byte = some d ↔ HexDigit byte d := by
  have bound := byte.toNat_lt
  simp only [toDigit, Option.filter_eq_some_iff, decide_eq_true_eq, UInt8.le_iff_toNat_le]
  constructor
  · rintro ⟨value, small⟩
    split_ifs at value with dec up low
    · obtain rfl := Option.some.inj value
      exact .decimal dec.1 dec.2
    · obtain rfl := Option.some.inj value
      have high : byte.toNat ≤ 0x46 := by omega
      exact .upper up.1 high
    · obtain rfl := Option.some.inj value
      have high : byte.toNat ≤ 0x66 := by omega
      exact .lower low.1 high
  · intro digit
    refine ⟨?_, digit.lt⟩
    cases digit with
    | decimal low high => rw [if_pos ⟨low, high⟩]
    | upper low high =>
      rw [if_neg (by simp; omega), if_pos (by simp; omega)]
    | lower low high =>
      rw [if_neg (by simp; omega), if_neg (by simp; omega), if_pos (by simp; omega)]

theorem HexDigit.ne_plus {byte : UInt8} {d : Nat} (h : HexDigit byte d) : byte ≠ 0x2B := by
  rintro rfl
  cases h with
  | decimal low high => exact absurd low (by decide)
  | upper low high => exact absurd low (by decide)
  | lower low high => exact absurd low (by decide)

theorem HexDigit.ascii {byte : UInt8} {d : Nat} (h : HexDigit byte d) : byte < 0x80 := by
  rw [UInt8.lt_iff_toNat_lt]
  cases h <;> (simp; omega)

/-- A digit in lower case is the digit of its value. -/
theorem HexDigit.toAsciiLowercase_eq {byte : UInt8} {d : Nat} (h : HexDigit byte d) :
    toAsciiLowercase byte = lowerDigit d := by
  apply UInt8.toNat_inj.mp
  have bound := byte.toNat_lt
  simp only [toAsciiLowercase, lowerDigit, UInt8.le_iff_toNat_le]
  cases h with
  | decimal low high =>
    rw [if_neg (by simp; omega), if_pos (by omega)]
    simp; omega
  | upper low high =>
    rw [if_pos (by simp; omega), if_neg (by omega)]
    simp; omega
  | lower low high =>
    rw [if_neg (by simp; omega), if_neg (by omega)]
    simp; omega

/-- What is written for a value in lower case is a digit of it. -/
theorem HexDigit.of_toAsciiLowercase {byte : UInt8} {d : Nat} (small : d < 16)
    (h : toAsciiLowercase byte = lowerDigit d) : HexDigit byte d := by
  have same := congrArg UInt8.toNat h
  have bound := byte.toNat_lt
  simp only [toAsciiLowercase, lowerDigit, UInt8.le_iff_toNat_le] at same
  split_ifs at same with up dec dec
  · simp at same up; omega
  · simp at same up
    have value : d = byte.toNat - 0x41 + 10 := by omega
    exact value ▸ .upper (by omega) (by omega)
  · simp at same up
    have value : d = byte.toNat - 0x30 := by omega
    exact value ▸ .decimal (by omega) (by omega)
  · simp at same up
    have value : d = byte.toNat - 0x61 + 10 := by omega
    exact value ▸ .lower (by omega) (by omega)

/-- A text spells the bytes that are written, up to the case of its letters, as it is. -/
theorem spells_iff {text bytes : List UInt8} :
    Spells text bytes ↔ text.map toAsciiLowercase = bytes.flatMap lowerHex := by
  constructor
  · intro spells
    induction spells with
    | nil => rfl
    | @cons high low h l text bytes digits digit rest ih =>
      have hs := digits.lt
      have ls := digit.lt
      have value : (UInt8.ofNat (h * 16 + l)).toNat = h * 16 + l := by simp; omega
      have top : (h * 16 + l) / 16 = h := by omega
      have bottom : (h * 16 + l) % 16 = l := by omega
      rw [List.flatMap_cons, lowerHex, value, top, bottom, ← ih, ← digits.toAsciiLowercase_eq,
        ← digit.toAsciiLowercase_eq]
      rfl
  · intro written
    induction bytes generalizing text with
    | nil =>
      obtain rfl := List.map_eq_nil_iff.mp written
      exact .nil
    | cons byte bytes ih =>
      match text with
      | [] => cases written
      | [_] => simp [lowerHex] at written
      | high :: low :: text =>
        simp only [List.map_cons, List.flatMap_cons, lowerHex, List.cons_append, List.nil_append,
          List.cons.injEq] at written
        have bound := byte.toNat_lt
        have digits := HexDigit.of_toAsciiLowercase (by omega) written.1
        have digit := HexDigit.of_toAsciiLowercase (Nat.mod_lt _ (by omega)) written.2.1
        have spells := Spells.cons digits digit (ih written.2.2)
        rwa [Nat.div_add_mod', UInt8.ofNat_toNat] at spells

theorem Spells.no_plus {text bytes : List UInt8} (h : Spells text bytes) : 0x2B ∉ text := by
  induction h with
  | nil => simp
  | cons digits digit rest ih =>
    have first := digits.ne_plus
    have second := digit.ne_plus
    simp [ih, first.symm, second.symm]

/-- Two texts of the same bytes are the same digits, and nothing else is. -/
theorem Spells.iff_sameCase {text other bytes : List UInt8} (h : Spells other bytes) :
    Spells text bytes ↔ text.map toAsciiLowercase = other.map toAsciiLowercase := by
  rw [spells_iff, spells_iff.mp h]

end Kesharon.Framework
