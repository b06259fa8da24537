import Kesharon.Framework.Json

namespace Kesharon.Framework.Json

section Strings

@[simp] theorem quote_ne_backslash : quote ≠ backslash := by decide

theorem hexValue_digitChar {n : Nat} (h : n < 16) : hexValue n.digitChar = some n := by
  have all : ∀ n < 16, hexValue n.digitChar = some n := by decide
  exact all n h

theorem readQuoted_plain {c : Char} (cs : List Char) (plain : c ≠ quote) (large : ¬ c.toNat < 0x20)
    (other : c ≠ backslash) : readQuoted (c :: cs) = (readQuoted cs).map (prepend c) := by
  rw [readQuoted.eq_def]
  dsimp only
  rw [if_neg plain, if_neg large, if_neg other]

theorem unescapeLetter_escapeLetter {c letter : Char} (h : escapeLetter c = some letter) :
    letter ≠ 'u' ∧ unescapeLetter letter = some c := by
  unfold escapeLetter at h
  split_ifs at h <;> obtain rfl := Option.some.inj h <;> subst c <;> decide

theorem readQuoted_escape (c : Char) (cs : List Char) :
    readQuoted (escape c ++ cs) = (readQuoted cs).map (prepend c) := by
  unfold escape
  cases letter : escapeLetter c with
  | some e =>
    obtain ⟨other, back⟩ := unescapeLetter_escapeLetter letter
    simp only [List.cons_append, List.nil_append]
    rw [readQuoted.eq_def]
    dsimp only
    rw [if_neg (by decide), if_neg (by decide), if_pos rfl]
    split
    · rename_i same
      exact absurd (List.cons.inj same).1 other
    · rename_i same
      obtain ⟨rfl, rfl⟩ := List.cons.inj same
      rw [back]
    · rename_i same
      exact nomatch same
  | none =>
    unfold escapeLetter at letter
    split_ifs at letter with hq hb
    split_ifs with control
    · have small : c.toNat / 16 < 16 ∧ c.toNat % 16 < 16 := by omega
      have unit : codeUnit '0' '0' (Nat.digitChar (c.toNat / 16)) (Nat.digitChar (c.toNat % 16)) =
          some c.toNat := by
        unfold codeUnit
        rw [hexValue_digitChar small.1, hexValue_digitChar small.2]
        simp only [show hexValue '0' = some 0 by decide, bind, Option.bind, pure,
          Option.some.injEq]
        omega
      rw [readQuoted.eq_def]
      simp only [List.cons_append, List.nil_append]
      rw [if_neg (by decide), if_neg (by decide), if_pos trivial, unit]
      dsimp only
      rw [if_neg (by omega), if_neg (by omega), Char.ofNat_toNat]
    · exact readQuoted_plain cs hq control hb

theorem readQuoted_text (s : List Char) (cs : List Char) :
    readQuoted (s.flatMap escape ++ quote :: cs) = some (s, cs) := by
  induction s with
  | nil =>
    rw [List.flatMap_nil, List.nil_append, readQuoted.eq_def]
    exact if_pos rfl
  | cons c s ih =>
    rw [List.flatMap_cons, List.append_assoc, readQuoted_escape, ih]
    rfl

theorem readString_quoted (s : String) (cs : List Char) :
    readString (quoted s ++ cs) = some (s, cs) := by
  unfold quoted readString
  simp [readQuoted_text]

end Strings


section Numbers

/-- The text does not go on with a number. -/
def EndsNumber (cs : List Char) : Prop :=
  ∀ c ∈ cs.head?, c.isDigit = false ∧ c ≠ '.' ∧ c ≠ 'e' ∧ c ≠ 'E'

theorem readDigits_digits {ds cs : List Char} (digits : ∀ c ∈ ds, c.isDigit = true)
    (present : ds ≠ []) (ends : EndsNumber cs) : readDigits [] (ds ++ cs) = some (ds, cs) := by
  have rest : cs.takeWhile Char.isDigit = [] ∧ cs.dropWhile Char.isDigit = cs := by
    cases cs with
    | nil => exact ⟨rfl, rfl⟩
    | cons c cs => simp [(ends c rfl).1]
  unfold readDigits
  rw [List.takeWhile_append_of_pos digits, List.dropWhile_append_of_pos digits, rest.1, rest.2,
    List.append_nil]
  exact if_neg present

theorem toDigits_head {n : Nat} (h : 0 < n) : (Nat.toDigits 10 n).head? ≠ some '0' := by
  induction n using Nat.base_induction 10 (by omega) with
  | single m hm =>
    rw [Nat.toDigits_of_lt_base hm]
    simp
    omega
  | digit m k hk hm ih =>
    rw [← Nat.toDigits_append_toDigits (by omega) hm hk, List.head?_append]
    cases head : (Nat.toDigits 10 m).head? with
    | none => exact absurd (List.head?_eq_none_iff.mp head) Nat.toDigits_ne_nil
    | some c =>
      rw [head] at ih
      exact ih hm

theorem readInteger_toDigits (n : Nat) {cs : List Char} (ends : EndsNumber cs) :
    readInteger (Nat.toDigits 10 n ++ cs) = some (Nat.toDigits 10 n, cs) := by
  by_cases zero : n = 0
  · subst zero
    rfl
  · have digits : ∀ c ∈ Nat.toDigits 10 n, c.isDigit = true := fun c hc =>
      Nat.isDigit_of_mem_toDigits (by omega) (by omega) hc
    have head := toDigits_head (Nat.pos_of_ne_zero zero)
    unfold readInteger
    split
    · rename_i rest same
      cases text : Nat.toDigits 10 n with
      | nil => exact absurd text Nat.toDigits_ne_nil
      | cons d ds =>
        rw [text, List.cons_append] at same
        rw [text, (List.cons.inj same).1] at head
        exact absurd rfl head
    · exact readDigits_digits digits Nat.toDigits_ne_nil ends

theorem readFraction_ends {cs : List Char} (ends : EndsNumber cs) :
    readFraction cs = some ([], cs) := by
  unfold readFraction
  split
  · exact absurd rfl (ends '.' rfl).2.1
  · rfl

theorem readExponent_ends {cs : List Char} (ends : EndsNumber cs) :
    readExponent cs = some ([], cs) := by
  cases cs with
  | nil => rfl
  | cons c cs =>
    unfold readExponent
    exact if_neg (not_or.mpr (ends c rfl).2.2)

theorem readNumber_natural (n : Nat) {cs : List Char} (ends : EndsNumber cs) :
    readNumber (Nat.toDigits 10 n ++ cs) = some (natural n, cs) := by
  have sign : ∀ rest, Nat.toDigits 10 n ++ cs ≠ '-' :: rest := by
    intro rest same
    cases text : Nat.toDigits 10 n with
    | nil => exact absurd text Nat.toDigits_ne_nil
    | cons d ds =>
      rw [text, List.cons_append] at same
      have digit : d.isDigit = true :=
        Nat.isDigit_of_mem_toDigits (by omega) (by omega) (text ▸ List.mem_cons_self)
      rw [(List.cons.inj same).1] at digit
      exact absurd digit (by decide)
  unfold readNumber
  split
  · rename_i rest same
    exact absurd same (sign rest)
  · simp only [readInteger_toDigits n ends, readFraction_ends ends, readExponent_ends ends, bind,
      Option.bind, pure, List.append_nil, if_true, Nat.ofDigitChars_ten_toDigits]

end Numbers


mutual

/-- All numbers are naturals of 64 bits. -/
def plain : Json → Bool
  | numeral _ => false
  | natural n => n < 18446744073709551616
  | array items => plainItems items
  | object fields => plainFields fields
  | _ => true

def plainItems : List Json → Bool
  | [] => true
  | x :: xs => plain x && plainItems xs

def plainFields : List (String × Json) → Bool
  | [] => true
  | (_, x) :: xs => plain x && plainFields xs

end

mutual

/-- How many arrays and objects stand around each other. -/
def depth : Json → Nat
  | array items => depthItems items + 1
  | object fields => depthFields fields + 1
  | _ => 0

def depthItems : List Json → Nat
  | [] => 0
  | x :: xs => max (depth x) (depthItems xs)

def depthFields : List (String × Json) → Nat
  | [] => 0
  | (_, x) :: xs => max (depth x) (depthFields xs)

end

mutual

/-- The fuel that reading the text of a value takes. -/
def cost : Json → Nat
  | array items => costItems items + 1
  | object fields => costFields fields + 1
  | _ => 1

def costItems : List Json → Nat
  | [] => 0
  | x :: xs => max (cost x) (costItems xs) + 1

def costFields : List (String × Json) → Nat
  | [] => 0
  | (_, x) :: xs => max (cost x) (costFields xs) + 1

end

section Values

/-- A value starts with a character that neither is blank nor closes something. -/
def Starts (cs : List Char) : Prop :=
  ∃ c t, cs = c :: t ∧ isBlank c = false ∧ c ≠ ']' ∧ c ≠ '\x7d'

theorem Starts.append {cs : List Char} (h : Starts cs) (ds : List Char) : Starts (cs ++ ds) := by
  obtain ⟨c, t, rfl, other⟩ := h
  exact ⟨c, t ++ ds, rfl, other⟩

theorem Starts.skip {cs : List Char} (h : Starts cs) : skip cs = cs := by
  obtain ⟨c, t, rfl, blank, _⟩ := h
  simp [Json.skip, blank]

theorem digit_starts {c : Char} (digit : c.isDigit = true) :
    isBlank c = false ∧ c ≠ ']' ∧ c ≠ '\x7d' ∧ c ≠ quote ∧ c ≠ '[' ∧ c ≠ '\x7b' ∧ c ≠ 'n' ∧ c ≠ 't' ∧
      c ≠ 'f' := by
  have differs (d : Char) (other : d.isDigit = false) : c ≠ d := by
    rintro rfl
    exact nomatch digit.symm.trans other
  refine ⟨?_, differs _ (by decide), differs _ (by decide), differs _ (by decide),
    differs _ (by decide), differs _ (by decide), differs _ (by decide), differs _ (by decide),
    differs _ (by decide)⟩
  simp only [isBlank, decide_eq_false_iff_not, not_or]
  exact ⟨differs _ (by decide), differs _ (by decide), differs _ (by decide), differs _ (by decide)⟩

theorem toDigits_cons (n : Nat) : ∃ d ds, Nat.toDigits 10 n = d :: ds ∧ d.isDigit = true := by
  cases text : Nat.toDigits 10 n with
  | nil => exact absurd text Nat.toDigits_ne_nil
  | cons d ds =>
    exact ⟨d, ds, rfl, Nat.isDigit_of_mem_toDigits (by omega) (by omega) (text ▸ List.mem_cons_self)⟩

theorem quoted_starts (s : String) : Starts (quoted s) :=
  ⟨quote, s.toList.flatMap escape ++ [quote], rfl, by decide, by decide, by decide⟩

theorem compact_starts {x : Json} (h : x.plain = true) : Starts (compact x) := by
  cases x with
  | null => exact ⟨'n', _, rfl, by decide, by decide, by decide⟩
  | bool b =>
    cases b
    · exact ⟨'f', _, rfl, by decide, by decide, by decide⟩
    · exact ⟨'t', _, rfl, by decide, by decide, by decide⟩
  | natural n =>
    obtain ⟨d, ds, text, digit⟩ := toDigits_cons n
    obtain ⟨blank, close, brace, _⟩ := digit_starts digit
    exact ⟨d, ds, by rw [compact, text], blank, close, brace⟩
  | numeral text => exact nomatch h
  | string s => exact quoted_starts s
  | array items => cases items <;> exact ⟨'[', _, rfl, by decide, by decide, by decide⟩
  | object fields =>
    rcases fields with _ | ⟨⟨k, x⟩, fields⟩ <;>
      exact ⟨'\x7b', _, rfl, by decide, by decide, by decide⟩

theorem compactItems_ends (xs : List Json) (cs : List Char) :
    EndsNumber (compactItems xs ++ cs) := by
  cases xs <;> (rintro c ⟨⟩; decide)

theorem compactFields_ends (xs : List (String × Json)) (cs : List Char) :
    EndsNumber (compactFields xs ++ cs) := by
  rcases xs with _ | ⟨⟨k, x⟩, xs⟩ <;> (rintro c ⟨⟩; decide)

/-- A text that starts neither a string nor a word nor anything in brackets. -/
theorem readValue_digit {fuel depth : Nat} {c : Char} {cs : List Char} (digit : c.isDigit = true) :
    readValue (fuel + 1) depth (c :: cs) = readNumber (c :: cs) := by
  obtain ⟨blank, _, _, quote', bracket, brace, n, t, f⟩ := digit_starts digit
  rw [readValue.eq_def]
  simp only [skip, List.dropWhile_cons, blank, Bool.false_eq_true, if_false]
  rw [if_neg quote', if_neg bracket, if_neg brace, if_neg n, if_neg t, if_neg f]

theorem readValue_quote (fuel depth : Nat) (cs : List Char) :
    readValue (fuel + 1) depth (quote :: cs) =
      (readQuoted cs).map fun r => (string (String.ofList r.1), r.2) := by
  rw [readValue.eq_def]
  simp [skip, show isBlank quote = false by decide]

theorem readValue_bracket (fuel depth : Nat) {cs : List Char} (h : Starts cs) :
    readValue (fuel + 1) (depth + 1) ('[' :: cs) =
      (readItems fuel depth cs).map fun r => (array r.1, r.2) := by
  obtain ⟨c, t, rfl, blank, close, brace⟩ := h
  rw [readValue.eq_def]
  simp only [skip, List.dropWhile_cons, show isBlank '[' = false by decide, blank,
    Bool.false_eq_true, if_false]
  rw [if_neg (by decide), if_pos trivial]
  split
  · rename_i same
    exact absurd (List.cons.inj same).1 close
  · rfl

theorem readValue_brace (fuel depth : Nat) {cs : List Char} (h : Starts cs) :
    readValue (fuel + 1) (depth + 1) ('\x7b' :: cs) =
      (readFields fuel depth cs).map fun r => (object r.1, r.2) := by
  obtain ⟨c, t, rfl, blank, close, brace⟩ := h
  rw [readValue.eq_def]
  simp only [skip, List.dropWhile_cons, show isBlank '\x7b' = false by decide, blank,
    Bool.false_eq_true, if_false]
  rw [if_neg (by decide), if_neg (by decide), if_pos trivial]
  split
  · rename_i same
    exact absurd (List.cons.inj same).1 brace
  · rfl

theorem readItems_last {fuel depth : Nat} {cs rest after : List Char} {x : Json}
    (read : readValue fuel depth cs = some (x, rest)) (closes : skip rest = ']' :: after) :
    readItems (fuel + 1) depth cs = some ([x], after) := by
  rw [readItems.eq_def]
  simp only [read, closes]

theorem readItems_more {fuel depth : Nat} {cs rest after : List Char} {x : Json}
    (read : readValue fuel depth cs = some (x, rest)) (more : skip rest = ',' :: after) :
    readItems (fuel + 1) depth cs = (readItems fuel depth after).map fun r => (x :: r.1, r.2) := by
  rw [readItems.eq_def]
  simp only [read, more]

/-- The key of a field, and the colon behind it. -/
theorem readKey (k : String) (cs : List Char) :
    readString (skip (quoted k ++ ':' :: cs)) = some (k, ':' :: cs) ∧
      skip (':' :: cs) = ':' :: cs := by
  rw [((quoted_starts k).append _).skip]
  exact ⟨readString_quoted k _, rfl⟩

theorem readFields_last {fuel depth : Nat} {cs rest after : List Char} {k : String} {x : Json}
    (read : readValue fuel depth cs = some (x, rest)) (closes : skip rest = '\x7d' :: after) :
    readFields (fuel + 1) depth (quoted k ++ ':' :: cs) = some ([(k, x)], after) := by
  obtain ⟨key, colon⟩ := readKey k cs
  rw [readFields.eq_def]
  simp only [key, colon, read, closes]

theorem readFields_more {fuel depth : Nat} {cs rest after : List Char} {k : String} {x : Json}
    (read : readValue fuel depth cs = some (x, rest)) (more : skip rest = ',' :: after) :
    readFields (fuel + 1) depth (quoted k ++ ':' :: cs) =
      (readFields fuel depth after).map fun r => ((k, x) :: r.1, r.2) := by
  obtain ⟨key, colon⟩ := readKey k cs
  rw [readFields.eq_def]
  simp only [key, colon, read, more]

/-- With so much fuel and so many brackets, the texts of values, of the items of arrays and of the
fields of objects are read back, whatever follows them. -/
structure Reads (fuel : Nat) : Prop where
  value : ∀ (x : Json) (d : Nat) (cs : List Char), x.plain = true → cost x ≤ fuel →
    depth x ≤ d → EndsNumber cs → readValue fuel d (compact x ++ cs) = some (x, cs)
  items : ∀ (x : Json) (xs : List Json) (d : Nat) (cs : List Char),
    plainItems (x :: xs) = true → costItems (x :: xs) ≤ fuel → depthItems (x :: xs) ≤ d →
    readItems fuel d (compact x ++ compactItems xs ++ cs) = some (x :: xs, cs)
  fields : ∀ (k : String) (x : Json) (xs : List (String × Json)) (d : Nat) (cs : List Char),
    plainFields ((k, x) :: xs) = true → costFields ((k, x) :: xs) ≤ fuel →
    depthFields ((k, x) :: xs) ≤ d →
    readFields fuel d (quoted k ++ ':' :: compact x ++ compactFields xs ++ cs) =
      some ((k, x) :: xs, cs)

theorem Reads.value_succ {fuel : Nat} (h : Reads fuel) (x : Json) (d : Nat) (cs : List Char)
    (plain : x.plain = true) (fuels : cost x ≤ fuel + 1) (deep : depth x ≤ d)
    (ends : EndsNumber cs) : readValue (fuel + 1) d (compact x ++ cs) = some (x, cs) := by
  cases x with
  | null => rfl
  | bool b => cases b <;> rfl
  | numeral text => exact nomatch plain
  | natural n =>
    obtain ⟨c, ds, text, digit⟩ := toDigits_cons n
    have read := readNumber_natural n ends
    rw [text, List.cons_append] at read
    rw [compact, text, List.cons_append, readValue_digit digit, read]
  | string s =>
    rw [compact, quoted, List.cons_append, List.cons_append, readValue_quote,
      List.append_assoc, List.cons_append, List.nil_append, readQuoted_text]
    simp
  | array items =>
    cases d with
    | zero => simp [depth] at deep
    | succ d =>
      cases items with
      | nil => rfl
      | cons x xs =>
        have inner := h.items x xs d cs plain (Nat.le_of_succ_le_succ fuels)
          (Nat.le_of_succ_le_succ deep)
        have starts : Starts (compact x) := compact_starts (Bool.and_eq_true_iff.mp plain).1
        rw [compact, List.cons_append, List.cons_append,
          readValue_bracket fuel d ((starts.append _).append _), inner]
        rfl
  | object fields =>
    cases d with
    | zero => simp [depth] at deep
    | succ d =>
      rcases fields with _ | ⟨⟨k, x⟩, xs⟩
      · rfl
      · have inner := h.fields k x xs d cs plain (Nat.le_of_succ_le_succ fuels)
          (Nat.le_of_succ_le_succ deep)
        rw [compact, List.cons_append, List.cons_append, List.cons_append,
          readValue_brace fuel d ((((quoted_starts k).append _).append _).append _), inner]
        rfl

theorem Reads.items_succ {fuel : Nat} (h : Reads fuel) (x : Json) (xs : List Json) (d : Nat)
    (cs : List Char) (plain : plainItems (x :: xs) = true)
    (fuels : costItems (x :: xs) ≤ fuel + 1) (deep : depthItems (x :: xs) ≤ d) :
    readItems (fuel + 1) d (compact x ++ compactItems xs ++ cs) = some (x :: xs, cs) := by
  obtain ⟨first, others⟩ := Bool.and_eq_true_iff.mp plain
  obtain ⟨fuel₁, fuel₂⟩ := Nat.max_le.mp (Nat.le_of_succ_le_succ fuels)
  obtain ⟨deep₁, deep₂⟩ := Nat.max_le.mp deep
  have read := h.value x d _ first fuel₁ deep₁ (compactItems_ends xs cs)
  rw [List.append_assoc]
  cases xs with
  | nil => exact readItems_last read rfl
  | cons y ys =>
    have inner := h.items y ys d cs others fuel₂ deep₂
    have more : skip (compactItems (y :: ys) ++ cs) =
        ',' :: (compact y ++ compactItems ys ++ cs) := by
      rw [compactItems]
      rfl
    rw [readItems_more read more, inner]
    rfl

theorem Reads.fields_succ {fuel : Nat} (h : Reads fuel) (k : String) (x : Json)
    (xs : List (String × Json)) (d : Nat) (cs : List Char)
    (plain : plainFields ((k, x) :: xs) = true) (fuels : costFields ((k, x) :: xs) ≤ fuel + 1)
    (deep : depthFields ((k, x) :: xs) ≤ d) :
    readFields (fuel + 1) d (quoted k ++ ':' :: compact x ++ compactFields xs ++ cs) =
      some ((k, x) :: xs, cs) := by
  obtain ⟨first, others⟩ := Bool.and_eq_true_iff.mp plain
  obtain ⟨fuel₁, fuel₂⟩ := Nat.max_le.mp (Nat.le_of_succ_le_succ fuels)
  obtain ⟨deep₁, deep₂⟩ := Nat.max_le.mp deep
  have read := h.value x d _ first fuel₁ deep₁ (compactFields_ends xs cs)
  rw [List.append_assoc, List.append_assoc, List.cons_append]
  rcases xs with _ | ⟨⟨l, y⟩, ys⟩
  · exact readFields_last read rfl
  · have inner := h.fields l y ys d cs others fuel₂ deep₂
    have more : skip (compactFields ((l, y) :: ys) ++ cs) =
        ',' :: (quoted l ++ ':' :: compact y ++ compactFields ys ++ cs) := by
      rw [compactFields]
      rfl
    rw [readFields_more read more, inner]
    rfl

theorem reads (fuel : Nat) : Reads fuel := by
  induction fuel with
  | zero =>
    refine ⟨?_, ?_, ?_⟩
    · intro x d cs plain fuels
      cases x <;> simp [cost] at fuels
    · intro x xs d cs plain fuels
      simp [costItems] at fuels
    · intro k x xs d cs plain fuels
      simp [costFields] at fuels
  | succ fuel ih => exact ⟨ih.value_succ, ih.items_succ, ih.fields_succ⟩

theorem Starts.length_pos {cs : List Char} (h : Starts cs) : 0 < cs.length := by
  obtain ⟨c, t, rfl, _⟩ := h
  exact Nat.succ_pos _

theorem compactItems_pos (xs : List Json) : 0 < (compactItems xs).length := by
  cases xs <;> exact Nat.succ_pos _

theorem compactFields_pos (xs : List (String × Json)) : 0 < (compactFields xs).length := by
  rcases xs with _ | ⟨⟨k, x⟩, xs⟩ <;> exact Nat.succ_pos _

mutual

theorem cost_le (x : Json) (h : x.plain = true) : cost x ≤ (compact x).length := by
  match x with
  | null | bool true | bool false => simp [cost, compact]
  | natural n | string s => exact (compact_starts h).length_pos
  | numeral text => exact nomatch h
  | array [] | object [] => simp [cost, costItems, costFields, compact]
  | array (x :: xs) =>
    obtain ⟨first, others⟩ := Bool.and_eq_true_iff.mp h
    have one := cost_le x first
    have rest := costItems_le xs others
    have pos := (compact_starts first).length_pos
    have pos' := compactItems_pos xs
    simp only [cost, costItems, compact, List.length_append, List.length_cons]
    omega
  | object ((k, x) :: xs) =>
    obtain ⟨first, others⟩ := Bool.and_eq_true_iff.mp h
    have one := cost_le x first
    have rest := costFields_le xs others
    have pos := (compact_starts first).length_pos
    have pos' := compactFields_pos xs
    simp only [cost, costFields, compact, List.length_append, List.length_cons]
    omega

theorem costItems_le (xs : List Json) (h : plainItems xs = true) :
    costItems xs ≤ (compactItems xs).length := by
  match xs with
  | [] => simp [costItems]
  | x :: xs =>
    obtain ⟨first, others⟩ := Bool.and_eq_true_iff.mp h
    have one := cost_le x first
    have rest := costItems_le xs others
    simp only [costItems, compactItems, List.length_append, List.length_cons]
    omega

theorem costFields_le (xs : List (String × Json)) (h : plainFields xs = true) :
    costFields xs ≤ (compactFields xs).length := by
  match xs with
  | [] => simp [costFields]
  | (k, x) :: xs =>
    obtain ⟨first, others⟩ := Bool.and_eq_true_iff.mp h
    have one := cost_le x first
    have rest := costFields_le xs others
    simp only [costFields, compactFields, List.length_append, List.length_cons]
    omega

end

/-- A value that is written is read back. -/
theorem parse_compact {x : Json} (plain : x.plain = true) (deep : x.depth ≤ maxDepth) :
    parse (compact x) = some x := by
  have ends : EndsNumber [] := nofun
  have read := (reads ((compact x).length + 1)).value x maxDepth [] plain
    (Nat.le_succ_of_le (cost_le x plain)) deep ends
  rw [List.append_nil] at read
  unfold parse
  rw [read]
  rfl

end Values

end Kesharon.Framework.Json
