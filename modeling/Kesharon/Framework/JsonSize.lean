import Kesharon.Framework.JsonText
import Kesharon.Framework.Text
import Mathlib.Tactic.Ring

namespace Kesharon.Framework.Json

/-- The bytes of some characters. -/
def width (cs : List Char) : Nat := (cs.map Char.utf8Size).sum

@[simp] theorem width_nil : width [] = 0 := rfl

@[simp] theorem width_cons (c : Char) (cs : List Char) :
    width (c :: cs) = c.utf8Size + width cs := rfl

@[simp] theorem width_append (cs ds : List Char) : width (cs ++ ds) = width cs + width ds := by
  simp [width]

theorem length_le_width (cs : List Char) : cs.length ≤ width cs := by
  induction cs with
  | nil => exact Nat.le_refl 0
  | cons c cs ih =>
    have pos := c.utf8Size_pos
    simp only [List.length_cons, width_cons]
    omega

theorem length_utf8 (cs : List Char) : (utf8 (String.ofList cs)).length = width cs := by
  have bytes : utf8 (String.ofList cs) = cs.flatMap String.utf8EncodeChar := by
    simp [utf8, List.utf8Encode]
  rw [bytes]
  clear bytes
  induction cs with
  | nil => rfl
  | cons c cs ih => simp [ih]

/-- The bytes of the text of a value. -/
def size (x : Json) : Nat := width (compact x)

theorem length_text (x : Json) : (utf8 x.text).length = x.size := length_utf8 _

/-- The bytes of a string in its quotes. -/
def textSize (s : String) : Nat := width (quoted s)

@[simp] theorem size_null : size .null = 4 := by decide

@[simp] theorem size_string (s : String) : size (.string s) = textSize s := rfl

/-- The bytes of the fields of an object, with what separates and closes them. -/
def fieldsSize : List (String × Json) → Nat
  | [] => 0
  | (k, x) :: xs => textSize k + size x + 2 + fieldsSize xs

def itemsSize : List Json → Nat
  | [] => 0
  | x :: xs => size x + 1 + itemsSize xs

theorem width_compactFields (xs : List (String × Json)) :
    width (compactFields xs) = fieldsSize xs + 1 := by
  induction xs with
  | nil => rfl
  | cons f xs ih =>
    obtain ⟨k, x⟩ := f
    have comma : Char.utf8Size ',' = 1 := rfl
    have colon : Char.utf8Size ':' = 1 := rfl
    simp only [compactFields, fieldsSize, size, textSize, width_append, width_cons, ih, comma, colon]
    omega

theorem width_compactItems (xs : List Json) : width (compactItems xs) = itemsSize xs + 1 := by
  induction xs with
  | nil => rfl
  | cons x xs ih =>
    have comma : Char.utf8Size ',' = 1 := rfl
    simp only [compactItems, itemsSize, size, width_append, width_cons, ih, comma]
    omega

theorem size_object (f : String × Json) (fields : List (String × Json)) :
    size (.object (f :: fields)) = fieldsSize (f :: fields) + 1 := by
  obtain ⟨k, x⟩ := f
  have brace : Char.utf8Size '\x7b' = 1 := rfl
  have colon : Char.utf8Size ':' = 1 := rfl
  simp only [size, compact, fieldsSize, textSize, width_append, width_cons, width_compactFields,
    brace, colon]
  omega

theorem size_array (x : Json) (xs : List Json) :
    size (.array (x :: xs)) = itemsSize (x :: xs) + 1 := by
  have bracket : Char.utf8Size '[' = 1 := rfl
  simp only [size, compact, itemsSize, width_append, width_cons, width_compactItems, bracket]
  omega

section Shortest

theorem utf8Size_digitChar {n : Nat} (h : n < 16) : n.digitChar.utf8Size = 1 := by
  have all : ∀ n < 16, n.digitChar.utf8Size = 1 := by decide
  exact all n h

theorem width_escape_le (c : Char) : width (escape c) ≤ 6 := by
  have size := c.utf8Size_le_four
  unfold escape
  cases letter : escapeLetter c with
  | some e =>
    have small := e.utf8Size_le_four
    have slash : Char.utf8Size backslash = 1 := rfl
    simp only [width_cons, width_nil, slash]
    omega
  | none =>
    dsimp only
    split_ifs with control
    · have high := utf8Size_digitChar (n := c.toNat / 16) (by omega)
      have low := utf8Size_digitChar (n := c.toNat % 16) (by omega)
      have slash : Char.utf8Size backslash = 1 := rfl
      have u : Char.utf8Size 'u' = 1 := rfl
      have zero : Char.utf8Size '0' = 1 := rfl
      simp only [width_cons, width_nil, slash, u, zero, high, low]
      omega
    · simp only [width_cons, width_nil]
      omega

/-- A character that may stand for itself does. -/
theorem escape_plain {c : Char} (plain : c ≠ quote) (large : ¬ c.toNat < 0x20)
    (other : c ≠ backslash) : escape c = [c] := by
  have none : escapeLetter c = none := by
    unfold escapeLetter
    have differs (d : Char) (small : d.toNat < 0x20) : c ≠ d := by
      rintro rfl
      exact large small
    rw [if_neg plain, if_neg other, if_neg (differs _ (by decide)), if_neg (differs _ (by decide)),
      if_neg (differs _ (by decide)), if_neg (differs _ (by decide)), if_neg (differs _ (by decide))]
  unfold escape
  rw [none]
  exact if_neg large

theorem width_escape_unescape {e c : Char} (h : unescapeLetter e = some c) :
    width (escape c) ≤ 2 := by
  unfold unescapeLetter at h
  split_ifs at h <;> obtain rfl := Option.some.inj h <;> decide

/-- A character that is read from enough bytes. -/
theorem width_prepend {c : Char} (front : List Char) {cs : List Char}
    (short : width (escape c) ≤ width front)
    (ih : ∀ s rest, readQuoted cs = some (s, rest) →
      width (s.flatMap escape) + 1 + width rest ≤ width cs) :
    ∀ s rest, (readQuoted cs).map (prepend c) = some (s, rest) →
      width (s.flatMap escape) + 1 + width rest ≤ width (front ++ cs) := by
  intro s rest read
  obtain ⟨⟨t, rest'⟩, inner, same⟩ := Option.map_eq_some_iff.mp read
  obtain ⟨rfl, rfl⟩ := Prod.mk.inj same
  have kept := ih t rest' inner
  simp only [List.flatMap_cons, width_append]
  omega

/-- No text of a string is shorter than the one that is written. -/
theorem width_readQuoted (cs : List Char) : ∀ s rest, readQuoted cs = some (s, rest) →
    width (s.flatMap escape) + 1 + width rest ≤ width cs := by
  have long (c : Char) (front : List Char) (six : 6 ≤ front.length) :
      width (escape c) ≤ width front :=
    Nat.le_trans (width_escape_le c) (Nat.le_trans six (length_le_width front))
  fun_induction readQuoted cs
  case case2 cs =>
    rintro s rest ⟨⟩
    have one : quote.utf8Size = 1 := rfl
    simp only [List.flatMap_nil, width_nil, width_cons, one]
    omega
  case case6 a b c d high _ _ a' b' c' d' cs low _ _ _ _ ih =>
    exact width_prepend [backslash, 'u', a, b, c, d, '\x5c', 'u', a', b', c', d']
      (long _ _ (by simp)) ih
  case case10 a b c d cs unit _ _ _ _ _ ih =>
    exact width_prepend [backslash, 'u', a, b, c, d] (long _ _ (by simp)) ih
  case case12 e cs _ c letter _ _ ih =>
    refine width_prepend [backslash, e] ?_ ih
    exact Nat.le_trans (width_escape_unescape letter) (length_le_width [backslash, e])
  case case14 c cs plain large other ih =>
    refine width_prepend [c] ?_ ih
    rw [escape_plain plain large other]
  all_goals exact nofun

theorem readDigits_some {front cs ds rest : List Char}
    (read : readDigits front cs = some (ds, rest)) :
    ∃ digits, ds = front ++ digits ∧ cs = digits ++ rest ∧ digits ≠ [] ∧
      ∀ c ∈ digits, c.isDigit = true := by
  unfold readDigits at read
  dsimp only at read
  split_ifs at read with none
  obtain ⟨rfl, rfl⟩ := Prod.mk.inj (Option.some.inj read)
  exact ⟨_, rfl, List.takeWhile_append_dropWhile.symm, none,
    fun c mem => List.all_eq_true.mp List.all_takeWhile c mem⟩

theorem readFraction_some {cs f rest : List Char} (read : readFraction cs = some (f, rest)) :
    cs = f ++ rest := by
  unfold readFraction at read
  split at read
  · obtain ⟨digits, rfl, rfl, _⟩ := readDigits_some read
    rfl
  · obtain ⟨rfl, rfl⟩ := Prod.mk.inj (Option.some.inj read)
    rfl

theorem readExponent_some {cs e rest : List Char} (read : readExponent cs = some (e, rest)) :
    cs = e ++ rest := by
  unfold readExponent at read
  split at read
  · split_ifs at read with letter
    · split at read <;>
      · obtain ⟨digits, rfl, rfl, _⟩ := readDigits_some read
        rfl
    · obtain ⟨rfl, rfl⟩ := Prod.mk.inj (Option.some.inj read)
      rfl
  · obtain ⟨rfl, rfl⟩ := Prod.mk.inj (Option.some.inj read)
    rfl

theorem readInteger_some {cs ds rest : List Char} (read : readInteger cs = some (ds, rest)) :
    cs = ds ++ rest ∧ ds ≠ [] ∧ ∀ c ∈ ds, c.isDigit = true := by
  unfold readInteger at read
  split at read
  · obtain ⟨rfl, rfl⟩ := Prod.mk.inj (Option.some.inj read)
    exact ⟨rfl, by simp, by simp⟩
  · obtain ⟨digits, rfl, rfl, present, digit⟩ := readDigits_some read
    exact ⟨rfl, present, digit⟩

theorem width_toDigits (n : Nat) : width (Nat.toDigits 10 n) = (Nat.toDigits 10 n).length := by
  have digits : ∀ c ∈ Nat.toDigits 10 n, c.isDigit = true := fun c mem =>
    Nat.isDigit_of_mem_toDigits (by omega) (by omega) mem
  generalize Nat.toDigits 10 n = ds at digits ⊢
  induction ds with
  | nil => rfl
  | cons d ds ih =>
    obtain ⟨first, others⟩ := List.forall_mem_cons.mp digits
    have one : d.utf8Size = 1 := by
      rw [Char.utf8Size_eq_one_iff, UInt32.le_iff_toNat_le]
      simp only [Char.isDigit, Bool.and_eq_true, decide_eq_true_eq, UInt32.le_iff_toNat_le] at first
      exact Nat.le_trans first.2 (by decide)
    rw [width_cons, one, ih others, List.length_cons, Nat.add_comm]

/-- A number is not longer without its leading zeros. -/
theorem length_toDigits_ofDigitChars {ds : List Char} (present : ds ≠ [])
    (digits : ∀ c ∈ ds, c.isDigit = true) :
    (Nat.toDigits 10 (Nat.ofDigitChars 10 ds 0)).length ≤ ds.length := by
  have below : ∀ init, Nat.ofDigitChars 10 ds init < (init + 1) * 10 ^ ds.length := by
    clear present
    induction ds with
    | nil => simp
    | cons d ds ih =>
      intro init
      obtain ⟨first, others⟩ := List.forall_mem_cons.mp digits
      have small : d.toNat - '0'.toNat < 10 := by
        simp only [Char.isDigit, Bool.and_eq_true, decide_eq_true_eq, UInt32.le_iff_toNat_le] at first
        have upper : d.toNat ≤ 57 := first.2
        have zero : '0'.toNat = 48 := rfl
        omega
      have rest := ih others (10 * init + (d.toNat - '0'.toNat))
      rw [Nat.ofDigitChars_cons, List.length_cons]
      calc _ < (10 * init + (d.toNat - '0'.toNat) + 1) * 10 ^ ds.length := rest
        _ ≤ (10 * (init + 1)) * 10 ^ ds.length := Nat.mul_le_mul_right _ (by omega)
        _ = (init + 1) * 10 ^ (ds.length + 1) := by ring
  rw [Nat.length_toDigits_le_iff (by omega) (List.length_pos_iff.mpr present)]
  simpa using below 0

theorem size_readNumber {cs rest : List Char} {x : Json}
    (read : readNumber cs = some (x, rest)) : size x + width rest ≤ width cs := by
  have numeral (front integer fraction exponent : List Char) :
      size (.numeral (String.ofList (front ++ integer ++ fraction ++ exponent))) + width rest =
        width (front ++ (integer ++ (fraction ++ (exponent ++ rest)))) := by
    simp only [size, compact, String.toList_ofList, width_append]
    omega
  unfold readNumber at read
  split at read
  · rename_i tail
    simp only [bind, Option.bind_eq_some_iff, pure, Option.some.injEq, Prod.mk.injEq,
      Prod.exists] at read
    obtain ⟨integer, after₁, first, fraction, after₂, second, exponent, after₃, third, rfl, rfl⟩ :=
      read
    obtain ⟨rfl, _⟩ := readInteger_some first
    obtain rfl := readFraction_some second
    obtain rfl := readExponent_some third
    exact Nat.le_of_eq (numeral ['-'] integer fraction exponent)
  · simp only [bind, Option.bind_eq_some_iff, pure, Prod.exists] at read
    obtain ⟨integer, after₁, first, fraction, after₂, second, exponent, after₃, third, value⟩ :=
      read
    obtain ⟨rfl, present, digits⟩ := readInteger_some first
    obtain rfl := readFraction_some second
    obtain rfl := readExponent_some third
    split_ifs at value with whole
    · obtain ⟨rfl, rfl⟩ := Prod.mk.inj (Option.some.inj value)
      have short := length_toDigits_ofDigitChars present digits
      have long := length_le_width integer
      simp only [size, compact, width_toDigits, width_append]
      omega
    · obtain ⟨rfl, rfl⟩ := Prod.mk.inj (Option.some.inj value)
      exact Nat.le_of_eq (numeral [] integer fraction exponent)

theorem width_skip (cs : List Char) : width (skip cs) ≤ width cs := by
  unfold skip
  induction cs with
  | nil => exact Nat.le_refl 0
  | cons c cs ih =>
    rw [List.dropWhile_cons]
    split_ifs
    · exact Nat.le_trans ih (Nat.le_add_left _ _)
    · exact Nat.le_refl _

theorem width_of_skip {cs ds : List Char} {c : Char} (h : skip cs = c :: ds) :
    width ds + 1 ≤ width cs := by
  have skipped := width_skip cs
  have pos := c.utf8Size_pos
  rw [h, width_cons] at skipped
  omega

theorem size_readWord {word cs rest : List Char} {value x : Json}
    (short : size value ≤ width word + 1) (read : readWord word value cs = some (x, rest)) :
    size x + width rest ≤ width cs + 1 := by
  unfold readWord at read
  split_ifs at read with front
  obtain ⟨rfl, rfl⟩ := Prod.mk.inj (Option.some.inj read)
  obtain ⟨tail, rfl⟩ := List.isPrefixOf_iff_prefix.mp front
  rw [List.drop_left, width_append]
  omega

theorem width_readString {cs rest : List Char} {s : String}
    (read : readString cs = some (s, rest)) : textSize s + width rest ≤ width cs := by
  unfold readString at read
  split at read
  · split_ifs at read with opens
    subst opens
    obtain ⟨⟨t, rest'⟩, inner, same⟩ := Option.map_eq_some_iff.mp read
    obtain ⟨rfl, rfl⟩ := Prod.mk.inj same
    have kept := width_readQuoted _ t rest' inner
    have one : quote.utf8Size = 1 := rfl
    simp only [textSize, quoted, String.toList_ofList, List.cons_append, width_cons, width_append,
      width_nil, one]
    omega
  · cases read

/-- With so much fuel, what is read is not longer in its compact form. -/
structure Shortens (fuel : Nat) : Prop where
  value : ∀ d cs x rest, readValue fuel d cs = some (x, rest) → size x + width rest ≤ width cs
  items : ∀ d cs xs rest, readItems fuel d cs = some (xs, rest) →
    xs ≠ [] ∧ itemsSize xs + width rest ≤ width cs
  fields : ∀ d cs xs rest, readFields fuel d cs = some (xs, rest) →
    xs ≠ [] ∧ fieldsSize xs + width rest ≤ width cs

theorem Shortens.value_succ {fuel : Nat} (h : Shortens fuel) (d : Nat) (cs : List Char) (x : Json)
    (rest : List Char) (read : readValue (fuel + 1) d cs = some (x, rest)) :
    size x + width rest ≤ width cs := by
  rw [readValue.eq_def] at read
  dsimp only at read
  cases start : skip cs with
  | nil => simp [start] at read
  | cons c tail =>
    have opened := width_of_skip start
    have whole := width_skip cs
    rw [start] at whole
    simp only [start] at read
    split_ifs at read with string bracket brace n t f
    · obtain ⟨⟨s, rest'⟩, inner, same⟩ := Option.map_eq_some_iff.mp read
      obtain ⟨rfl, rfl⟩ := Prod.mk.inj same
      have kept := width_readQuoted _ s rest' inner
      have one : quote.utf8Size = 1 := rfl
      simp only [size_string, textSize, quoted, String.toList_ofList, List.cons_append, width_cons,
        width_append, width_nil, one]
      omega
    · cases d with
      | zero => cases read
      | succ d =>
        have inside := width_skip tail
        dsimp only at read
        split at read
        · rename_i closed
          obtain ⟨rfl, rfl⟩ := Prod.mk.inj (Option.some.inj read)
          have closes := width_of_skip closed
          have two : size (.array []) = 2 := by decide
          omega
        · obtain ⟨⟨xs, rest'⟩, inner, same⟩ := Option.map_eq_some_iff.mp read
          obtain ⟨rfl, rfl⟩ := Prod.mk.inj same
          obtain ⟨present, kept⟩ := h.items d _ xs rest' inner
          obtain ⟨y, ys, rfl⟩ := List.exists_cons_of_ne_nil present
          rw [size_array]
          dsimp only
          omega
    · cases d with
      | zero => cases read
      | succ d =>
        have inside := width_skip tail
        dsimp only at read
        split at read
        · rename_i closed
          obtain ⟨rfl, rfl⟩ := Prod.mk.inj (Option.some.inj read)
          have closes := width_of_skip closed
          have two : size (.object []) = 2 := by decide
          omega
        · obtain ⟨⟨xs, rest'⟩, inner, same⟩ := Option.map_eq_some_iff.mp read
          obtain ⟨rfl, rfl⟩ := Prod.mk.inj same
          obtain ⟨present, kept⟩ := h.fields d _ xs rest' inner
          obtain ⟨y, ys, rfl⟩ := List.exists_cons_of_ne_nil present
          rw [size_object]
          dsimp only
          omega
    · exact Nat.le_trans (size_readWord (by decide) read) opened
    · exact Nat.le_trans (size_readWord (by decide) read) opened
    · exact Nat.le_trans (size_readWord (by decide) read) opened
    · exact Nat.le_trans (size_readNumber read) whole

theorem Shortens.items_succ {fuel : Nat} (h : Shortens fuel) (d : Nat) (cs : List Char)
    (xs : List Json) (rest : List Char) (read : readItems (fuel + 1) d cs = some (xs, rest)) :
    xs ≠ [] ∧ itemsSize xs + width rest ≤ width cs := by
  rw [readItems.eq_def] at read
  dsimp only at read
  cases first : readValue fuel d cs with
  | none => simp [first] at read
  | some p =>
    obtain ⟨x, after⟩ := p
    have one := h.value d cs x after first
    simp only [first] at read
    split at read
    · rename_i closed
      obtain ⟨rfl, rfl⟩ := Prod.mk.inj (Option.some.inj read)
      have closes := width_of_skip closed
      refine ⟨by simp, ?_⟩
      simp only [itemsSize]
      omega
    · rename_i more
      obtain ⟨⟨ys, rest'⟩, inner, same⟩ := Option.map_eq_some_iff.mp read
      obtain ⟨rfl, rfl⟩ := Prod.mk.inj same
      have goes := width_of_skip more
      have others := (h.items d _ ys rest' inner).2
      refine ⟨by simp, ?_⟩
      simp only [itemsSize]
      omega
    · cases read

theorem Shortens.fields_succ {fuel : Nat} (h : Shortens fuel) (d : Nat) (cs : List Char)
    (xs : List (String × Json)) (rest : List Char)
    (read : readFields (fuel + 1) d cs = some (xs, rest)) :
    xs ≠ [] ∧ fieldsSize xs + width rest ≤ width cs := by
  rw [readFields.eq_def] at read
  dsimp only at read
  cases key : readString (skip cs) with
  | none => simp [key] at read
  | some p =>
    obtain ⟨k, after⟩ := p
    have name := Nat.le_trans (width_readString key) (width_skip cs)
    simp only [key] at read
    split at read
    · rename_i colon
      have behind := width_of_skip colon
      split at read
      · cases read
      · rename_i x after' first
        have one := h.value d _ x after' first
        split at read
        · rename_i closed
          obtain ⟨rfl, rfl⟩ := Prod.mk.inj (Option.some.inj read)
          have closes := width_of_skip closed
          refine ⟨by simp, ?_⟩
          simp only [fieldsSize]
          omega
        · rename_i more
          obtain ⟨⟨ys, rest'⟩, inner, same⟩ := Option.map_eq_some_iff.mp read
          obtain ⟨rfl, rfl⟩ := Prod.mk.inj same
          have goes := width_of_skip more
          have others := (h.fields d _ ys rest' inner).2
          refine ⟨by simp, ?_⟩
          simp only [fieldsSize]
          omega
        · cases read
    · cases read

theorem shortens (fuel : Nat) : Shortens fuel := by
  induction fuel with
  | zero =>
    refine ⟨?_, ?_, ?_⟩ <;> intro d cs x rest read
    · simp [readValue] at read
    · simp [readItems] at read
    · simp [readFields] at read
  | succ fuel ih => exact ⟨ih.value_succ, ih.items_succ, ih.fields_succ⟩

/-- The compact text of a value is the shortest one. -/
theorem size_parse {cs : List Char} {x : Json} (read : parse cs = some x) : size x ≤ width cs := by
  unfold parse at read
  split at read
  · rename_i y rest value
    split_ifs at read
    obtain rfl := Option.some.inj read
    have kept := (shortens _).value _ _ y rest value
    omega
  · exact nomatch read

end Shortest

end Kesharon.Framework.Json
