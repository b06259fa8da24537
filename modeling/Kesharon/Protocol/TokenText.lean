import Kesharon.Framework.Hex
import Kesharon.Protocol.LaunchToken

namespace Kesharon.Protocol.LaunchToken

open Framework

/-- What the loop of `parse_hex` accepts: a pair is two digits, or a sign and a digit. -/
inductive Reads : (text bytes : List UInt8) → Prop where
  | nil : Reads [] []
  | digits {high low : UInt8} {h l : Nat} {text bytes : List UInt8} (first : HexDigit high h)
      (second : HexDigit low l) (rest : Reads text bytes) :
      Reads (high :: low :: text) (UInt8.ofNat (h * 16 + l) :: bytes)
  | signed {low : UInt8} {l : Nat} {text bytes : List UInt8} (digit : HexDigit low l)
      (rest : Reads text bytes) : Reads (0x2B :: low :: text) (UInt8.ofNat l :: bytes)

/-- The text is read, and a pair of it begins with a sign. -/
def Signed (text : List UInt8) : Prop :=
  0x2B ∈ text ∧ ∃ bytes, bytes.length = 32 ∧ Reads text bytes

theorem Reads.length_eq {text bytes : List UInt8} (h : Reads text bytes) :
    text.length = 2 * bytes.length := by
  induction h with
  | nil => rfl
  | digits first second rest ih => simp only [List.length_cons]; omega
  | signed digit rest ih => simp only [List.length_cons]; omega

theorem Reads.ascii {text bytes : List UInt8} (h : Reads text bytes) : ∀ b ∈ text, b < 0x80 := by
  induction h with
  | nil => simp
  | digits first second rest ih =>
    intro b mem
    rcases List.mem_cons.mp mem with rfl | mem
    · exact first.ascii
    · rcases List.mem_cons.mp mem with rfl | mem
      · exact second.ascii
      · exact ih b mem
  | signed digit rest ih =>
    intro b mem
    rcases List.mem_cons.mp mem with rfl | mem
    · decide
    · rcases List.mem_cons.mp mem with rfl | mem
      · exact digit.ascii
      · exact ih b mem

theorem Reads.of_spells {text bytes : List UInt8} (h : Spells text bytes) : Reads text bytes := by
  induction h with
  | nil => exact .nil
  | cons digits digit rest ih => exact .digits digits digit ih

/-- Without a sign, only digits are read. -/
theorem Reads.spells {text bytes : List UInt8} (h : Reads text bytes) (plain : 0x2B ∉ text) :
    Spells text bytes := by
  induction h with
  | nil => exact .nil
  | digits first second rest ih =>
    simp only [List.mem_cons, not_or] at plain
    exact .cons first second (ih plain.2.2)
  | signed digit rest ih => exact absurd (List.mem_cons_self ..) plain

/-- What is read of a pair. -/
theorem fromStrRadix_pair {first second : UInt8} {n : Nat} :
    fromStrRadix 255 16 [first, second] = .ok n ↔
      (∃ h l, HexDigit first h ∧ HexDigit second l ∧ n = h * 16 + l) ∨
        first = 0x2B ∧ HexDigit second n := by
  have one {number : Nat} {byte : UInt8} {m : Nat} (small : number < 16) :
      readDigits 255 16 number [byte] = .ok m ↔ ∃ l, HexDigit byte l ∧ m = number * 16 + l := by
    simp only [readDigits]
    cases digit : toDigit 16 byte with
    | none =>
      refine ⟨nofun, ?_⟩
      rintro ⟨l, known, -⟩
      rw [toDigit_eq_some.mpr known] at digit
      cases digit
    | some d =>
      have known := toDigit_eq_some.mp digit
      have bound := known.lt
      have fits : ¬ 255 < number * 16 + d := by omega
      simp only [if_neg fits]
      constructor
      · intro h
        exact ⟨d, known, (Except.ok.inj h).symm⟩
      · rintro ⟨l, other, rfl⟩
        rw [toDigit_eq_some.mpr other] at digit
        rw [Option.some.inj digit]
  by_cases plus : first = 0x2B
  · subst plus
    have noDigit : ∀ d, ¬ HexDigit 0x2B d := fun d known => known.ne_plus rfl
    have behind : fromStrRadix 255 16 [0x2B, second] = readDigits 255 16 0 [second] := rfl
    rw [behind, one (by omega)]
    simp [noDigit]
  · have whole : fromStrRadix 255 16 [first, second] = readDigits 255 16 0 [first, second] := by
      unfold fromStrRadix
      split
      · contradiction
      · rename_i same
        exact absurd (List.cons.inj same).1 plus
      · rename_i same
        exact absurd (List.cons.inj same).1 plus
      · rfl
    rw [whole, readDigits]
    simp only [plus, false_and, or_false]
    cases digit : toDigit 16 first with
    | none =>
      refine ⟨nofun, ?_⟩
      rintro ⟨h, l, known, -⟩
      rw [toDigit_eq_some.mpr known] at digit
      cases digit
    | some d =>
      have known := toDigit_eq_some.mp digit
      have bound := known.lt
      have fits : ¬ 255 < d := by omega
      simp only [Nat.zero_mul, Nat.zero_add, if_neg fits]
      rw [one bound]
      constructor
      · rintro ⟨l, second, same⟩
        exact ⟨d, l, known, second, same⟩
      · rintro ⟨h, l, other, second, same⟩
        rw [toDigit_eq_some.mpr other] at digit
        obtain rfl := Option.some.inj digit
        exact ⟨l, second, same⟩

/-- A pair is read where it is a pair of its text and no character lies across its ends. -/
theorem parseByte_eq_ok {value : String} {index : Nat} {byte : UInt8} :
    parseByte value index = .ok (.ok byte) ↔
      Aligned value index ∧
        ∃ n, fromStrRadix 255 16 (pair value index) = .ok n ∧ byte = UInt8.ofNat n := by
  by_cases aligned : Aligned value index
  · rw [parseByte_aligned aligned]
    cases fromStrRadix 255 16 (pair value index) with
    | error e => simp
    | ok n => simp [aligned, eq_comm]
  · obtain ⟨panic, step⟩ := parseByte_split aligned
    simp [step, aligned]

theorem isCharBoundary_of_ascii {value : String} {index : Nat} {byte : UInt8} {rest : List UInt8}
    (at_index : (utf8 value).drop index = byte :: rest) (ascii : byte < 0x80) :
    isCharBoundary value index = true := by
  have found : (utf8 value)[index]? = some byte := by
    have head := congrArg (·[0]?) at_index
    simpa using head
  unfold isCharBoundary
  split_ifs
  · rfl
  · simp [found, ascii]

theorem isCharBoundary_length (value : String) :
    isCharBoundary value (utf8 value).length = true := by
  unfold isCharBoundary
  split_ifs
  · rfl
  · simp

/-- Where a text that is read begins, and where it ends, no character is cut. -/
theorem isCharBoundary_of_reads {value : String} {index : Nat} {bytes : List UInt8}
    (inside : index ≤ (utf8 value).length) (reads : Reads ((utf8 value).drop index) bytes) :
    isCharBoundary value index = true := by
  cases text : (utf8 value).drop index with
  | nil =>
    have stop := List.drop_eq_nil_iff.mp text
    have same : index = (utf8 value).length := by omega
    rw [same]
    exact isCharBoundary_length value
  | cons byte rest =>
    have ascii := reads.ascii byte (text ▸ List.mem_cons_self ..)
    exact isCharBoundary_of_ascii text ascii

/-- The loop reads the pairs that are left. -/
theorem parseBytes_eq_ok {value : String} {count index : Nat}
    (length : (utf8 value).length = (index + count) * 2)
    {bytes : { bytes : List UInt8 // bytes.length = count }} :
    parseBytes value count index = .ok (.ok bytes) ↔
      Reads ((utf8 value).drop (index * 2)) bytes.1 := by
  induction count generalizing index with
  | zero =>
    have stop : (utf8 value).drop (index * 2) = [] := List.drop_eq_nil_iff.mpr (by omega)
    have empty : bytes = ⟨[],rfl⟩ := Subtype.ext (List.eq_nil_of_length_eq_zero bytes.2)
    subst empty
    rw [stop]
    exact ⟨fun _ => .nil, fun _ => rfl⟩
  | succ count ih =>
    obtain ⟨first, second, rest, text⟩ :
        ∃ first second rest, (utf8 value).drop (index * 2) = first :: second :: rest := by
      have long : 2 ≤ ((utf8 value).drop (index * 2)).length := by
        rw [List.length_drop]
        omega
      match text : (utf8 value).drop (index * 2) with
      | [] => rw [text] at long; simp at long
      | [_] => rw [text] at long; simp at long
      | first :: second :: rest => exact ⟨first, second, rest, rfl⟩
    have behind : (utf8 value).drop ((index + 1) * 2) = rest := by
      have moved := congrArg (List.drop 2) text
      rw [List.drop_drop] at moved
      rw [Nat.add_mul, moved]
      rfl
    have cut : pair value index = [first, second] := by
      unfold pair
      rw [text]
      rfl
    have further := @ih (index + 1) (by omega)
    rw [behind] at further
    constructor
    · intro parsed
      simp only [parseBytes] at parsed
      cases step : parseByte value index with
      | error panic => rw [step] at parsed; cases parsed
      | ok result =>
        cases result with
        | error e => rw [step] at parsed; cases parsed
        | ok byte =>
          rw [step] at parsed
          cases left : parseBytes value count (index + 1) with
          | error panic => rw [left] at parsed; cases parsed
          | ok result =>
            cases result with
            | error e => rw [left] at parsed; cases parsed
            | ok bytes =>
              rw [left] at parsed
              obtain rfl := Except.ok.inj (Except.ok.inj parsed)
              have reads := further.mp left
              obtain ⟨-, n, digits, rfl⟩ := parseByte_eq_ok.mp step
              rw [cut] at digits
              rw [text]
              rcases fromStrRadix_pair.mp digits with ⟨h, l, high, low, rfl⟩ | ⟨rfl, low⟩
              · exact .digits high low reads
              · exact .signed low reads
    · intro reads
      obtain ⟨bytes, size⟩ := bytes
      have start := isCharBoundary_of_reads (by omega) reads
      rw [text] at reads
      obtain ⟨n, tail, digits, rfl, left⟩ : ∃ n tail,
          fromStrRadix 255 16 (pair value index) = .ok n ∧ bytes = UInt8.ofNat n :: tail ∧
            Reads rest tail := by
        rw [cut]
        cases reads with
        | digits high low left =>
          exact ⟨_, _, fromStrRadix_pair.mpr (.inl ⟨_, _, high, low, rfl⟩), rfl, left⟩
        | signed low left => exact ⟨_, _, fromStrRadix_pair.mpr (.inr ⟨rfl, low⟩), rfl, left⟩
      have stop : isCharBoundary value ((index + 1) * 2) = true :=
        isCharBoundary_of_reads (by omega) (by rwa [behind])
      rw [Nat.add_mul] at stop
      have step := parseByte_eq_ok.mpr ⟨⟨start, stop⟩, n, digits, rfl⟩
      have tailed := (@further ⟨tail,Nat.succ.inj size⟩).mpr left
      simp only [parseBytes, step, tailed]

/-- The language of `parse_hex`. -/
theorem parseHex_eq_ok {value : String} {token : LaunchToken} :
    parseHex value = .ok (.ok token) ↔ Reads (utf8 value) token.bytes := by
  obtain ⟨bytes, size⟩ := token
  by_cases length : (utf8 value).length = 64
  · have loop := @parseBytes_eq_ok value 32 0 (by omega) ⟨bytes,size⟩
    rw [Nat.zero_mul, List.drop_zero] at loop
    rw [← loop]
    unfold parseHex
    rw [if_neg (not_not.mpr length)]
    cases parseBytes value 32 0 with
    | error panic => simp
    | ok result =>
      cases result with
      | error e => simp
      | ok bytes => simp [Subtype.ext_iff]
  · constructor
    · intro parsed
      unfold parseHex at parsed
      rw [if_pos length] at parsed
      cases parsed
    · intro reads
      have even := reads.length_eq
      simp only [size] at even
      exact absurd even length

/-- Tokens are equal exactly when no bit of theirs differs. -/
theorem differs_eq_zero {left right : List UInt8} (size : left.length = right.length) :
    (List.zipWith (fun left right => left ^^^ right) left right).foldl
        (fun difference byte => difference ||| byte) 0 = 0 ↔ left = right := by
  have general (start : UInt8) :
      (List.zipWith (fun left right => left ^^^ right) left right).foldl
          (fun difference byte => difference ||| byte) start = 0 ↔ start = 0 ∧ left = right := by
    induction left generalizing right start with
    | nil =>
      obtain rfl := List.eq_nil_of_length_eq_zero size.symm
      simp
    | cons x left ih =>
      cases right with
      | nil => cases size
      | cons y right =>
        have rest := ih (Nat.succ.inj size) (start ||| (x ^^^ y))
        simp only [List.zipWith_cons_cons, List.foldl_cons, rest, List.cons.injEq]
        rw [UInt8.or_eq_zero_iff, UInt8.xor_eq_zero_iff, and_assoc]
  have whole := general 0
  simpa using whole

/-- A token matches the texts that are read as its bytes. -/
theorem matchesHex_eq_true {token : LaunchToken} {candidate : String} :
    token.matchesHex candidate = .ok true ↔ Reads (utf8 candidate) token.bytes := by
  rw [← parseHex_eq_ok]
  unfold matchesHex
  cases parsed : parseHex candidate with
  | error panic => simp
  | ok result =>
    cases result with
    | error e => simp
    | ok other =>
      have sizes : token.bytes.length = other.bytes.length := by
        rw [token.length_eq, other.length_eq]
      have same := differs_eq_zero sizes
      obtain ⟨bytes, size⟩ := token
      obtain ⟨others, size'⟩ := other
      simp only [Except.ok.injEq, decide_eq_true_eq, same, mk.injEq]
      exact eq_comm

end Kesharon.Protocol.LaunchToken
