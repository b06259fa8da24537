import Kesharon.Framework.Text
import Kesharon.Protocol.Message

namespace Kesharon.Protocol

open Framework

/-- `LaunchToken([u8; 32])` -/
structure LaunchToken where
  bytes : List UInt8
  length_eq : bytes.length = 32
  deriving DecidableEq, Repr

namespace LaunchToken

/-- The digits of one byte, sliced out of the text. -/
def parseByte (value : String) (index : Nat) : Except Panic (Except ProtocolError UInt8) :=
  let offset := index * 2
  match slice value offset (offset + 2) with
  | .error panic => .error panic
  | .ok digits =>
    match fromStrRadix 255 16 digits with
    | .error _ => .ok (.error .invalidLaunchToken)
    | .ok byte => .ok (.ok (UInt8.ofNat byte))

/-- The loop of `parse_hex`: the bytes that are left, from an index on. -/
def parseBytes (value : String) :
    (count index : Nat) →
      Except Panic (Except ProtocolError { bytes : List UInt8 // bytes.length = count })
  | 0, _ => .ok (.ok ⟨[],rfl⟩)
  | count + 1, index =>
    match parseByte value index with
    | .error panic => .error panic
    | .ok (.error error) => .ok (.error error)
    | .ok (.ok byte) =>
      match parseBytes value count (index + 1) with
      | .error panic => .error panic
      | .ok (.error error) => .ok (.error error)
      | .ok (.ok bytes) => .ok (.ok ⟨byte :: bytes.1,congrArg (· + 1) bytes.2⟩)

def parseHex (value : String) : Except Panic (Except ProtocolError LaunchToken) :=
  if (utf8 value).length ≠ 64 then .ok (.error .invalidLaunchToken)
  else
    match parseBytes value 32 0 with
    | .error panic => .error panic
    | .ok (.error error) => .ok (.error error)
    | .ok (.ok bytes) => .ok (.ok ⟨bytes.1,bytes.2⟩)

def matchesHex (token : LaunchToken) (candidate : String) : Except Panic Bool :=
  match parseHex candidate with
  | .error panic => .error panic
  | .ok (.error _) => .ok false
  | .ok (.ok candidate) =>
    .ok ((List.zipWith (fun left right => left ^^^ right) token.bytes candidate.bytes).foldl
      (fun difference byte => difference ||| byte) 0 = 0)

/-- The two bytes from an even offset. -/
def pair (value : String) (index : Nat) : List UInt8 := ((utf8 value).drop (index * 2)).take 2

/-- No character lies across the ends of a pair. -/
def Aligned (value : String) (index : Nat) : Prop :=
  isCharBoundary value (index * 2) = true ∧ isCharBoundary value (index * 2 + 2) = true

/-- A pair that the loop of `parse_hex` gets past. -/
def PairParses (value : String) (index : Nat) : Prop :=
  Aligned value index ∧ ∃ byte, fromStrRadix 255 16 (pair value index) = .ok byte

/-- Behind pairs that parse there is one that splits a character. -/
def SplitsFrom (value : String) (count index : Nat) : Prop :=
  ∃ k < count, (∀ j < k, PairParses value (index + j)) ∧ ¬ Aligned value (index + k)

/-- A text of 64 bytes that is cut inside a character before it is refused. -/
def SplitsChar (value : String) : Prop := (utf8 value).length = 64 ∧ SplitsFrom value 32 0

theorem parseByte_aligned {value : String} {index : Nat} (h : Aligned value index) :
    parseByte value index = match fromStrRadix 255 16 (pair value index) with
      | .error _ => .ok (.error .invalidLaunchToken)
      | .ok byte => .ok (.ok (UInt8.ofNat byte)) := by
  have cut : slice value (index * 2) (index * 2 + 2) = .ok (pair value index) := by
    unfold slice pair
    rw [if_neg (by simp [h.1]), if_neg (by simp [h.2]), Nat.add_sub_cancel_left]
  simp only [parseByte, cut]

theorem parseByte_split {value : String} {index : Nat} (h : ¬ Aligned value index) :
    ∃ panic, parseByte value index = .error panic := by
  obtain ⟨panic, cut⟩ : ∃ panic, slice value (index * 2) (index * 2 + 2) = .error panic := by
    rw [slice_error_iff]
    cases start : isCharBoundary value (index * 2) with
    | false => exact .inl rfl
    | true =>
      cases stop : isCharBoundary value (index * 2 + 2) with
      | false => exact .inr rfl
      | true => exact absurd ⟨start, stop⟩ h
  exact ⟨panic, by simp only [parseByte, cut]⟩

theorem parseBytes_panics_iff (value : String) (count index : Nat) :
    (∃ panic, parseBytes value count index = .error panic) ↔ SplitsFrom value count index := by
  induction count generalizing index with
  | zero => simp [parseBytes, SplitsFrom]
  | succ count ih =>
    by_cases aligned : Aligned value index
    · have step := parseByte_aligned aligned
      cases digits : fromStrRadix 255 16 (pair value index) with
      | error e =>
        rw [digits] at step
        constructor
        · rintro ⟨panic, h⟩
          simp [parseBytes, step] at h
        · rintro ⟨k, _, before, split⟩
          cases k with
          | zero => exact absurd aligned split
          | succ k =>
            obtain ⟨_, byte, parses⟩ := before 0 (by omega)
            rw [Nat.add_zero, digits] at parses
            cases parses
      | ok byte =>
        rw [digits] at step
        have further : (∃ panic, parseBytes value (count + 1) index = .error panic) ↔
            ∃ panic, parseBytes value count (index + 1) = .error panic := by
          simp only [parseBytes, step]
          cases parseBytes value count (index + 1) with
          | error panic => simp
          | ok result => cases result <;> simp
        rw [further, ih]
        constructor
        · rintro ⟨k, hk, before, split⟩
          refine ⟨k + 1, by omega, ?_, by rwa [Nat.add_right_comm] at split⟩
          intro j hj
          cases j with
          | zero => exact ⟨aligned, byte, digits⟩
          | succ j =>
            have parses := before j (by omega)
            rwa [Nat.add_right_comm] at parses
        · rintro ⟨k, hk, before, split⟩
          cases k with
          | zero => exact absurd aligned split
          | succ k =>
            refine ⟨k, by omega, ?_, by rwa [Nat.add_right_comm]⟩
            intro j hj
            have parses := before (j + 1) (by omega)
            rwa [← Nat.add_assoc, Nat.add_right_comm] at parses
    · obtain ⟨panic, step⟩ := parseByte_split aligned
      constructor
      · intro _
        exact ⟨0, by omega, by simp, aligned⟩
      · intro _
        exact ⟨panic, by simp only [parseBytes, step]⟩

/-- `parse_hex` panics exactly on the texts that it cuts inside a character. -/
theorem parseHex_panics_iff (value : String) :
    (∃ panic, parseHex value = .error panic) ↔ SplitsChar value := by
  unfold parseHex SplitsChar
  by_cases length : (utf8 value).length = 64
  · rw [if_neg (not_not.mpr length), ← parseBytes_panics_iff]
    cases parseBytes value 32 0 with
    | error panic => simp [length]
    | ok result => cases result <;> simp
  · rw [if_pos length]
    simp [length]

theorem matchesHex_panics_iff (token : LaunchToken) (candidate : String) :
    (∃ panic, token.matchesHex candidate = .error panic) ↔ SplitsChar candidate := by
  rw [← parseHex_panics_iff]
  unfold matchesHex
  cases parseHex candidate with
  | error panic => simp
  | ok result => cases result <;> simp

/-- A text that matches a token has 64 bytes. -/
theorem length_of_matchesHex {token : LaunchToken} {candidate : String}
    (h : token.matchesHex candidate = .ok true) : (utf8 candidate).length = 64 := by
  by_cases other : (utf8 candidate).length ≠ 64
  · unfold matchesHex parseHex at h
    rw [if_pos other] at h
    cases h
  · exact not_not.mp other

end LaunchToken

end Kesharon.Protocol
