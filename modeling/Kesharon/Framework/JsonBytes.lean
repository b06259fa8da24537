import Kesharon.Framework.JsonSize

namespace Kesharon.Framework.Json

/-- No control character. -/
def Graphic (cs : List Char) : Prop := ∀ c ∈ cs, 0x20 ≤ c.toNat

theorem Graphic.cons {c : Char} {cs : List Char} (head : 0x20 ≤ c.toNat) (tail : Graphic cs) :
    Graphic (c :: cs) := by
  intro d among
  rcases List.mem_cons.mp among with rfl | later
  · exact head
  · exact tail d later

theorem Graphic.append {cs ds : List Char} (front : Graphic cs) (back : Graphic ds) :
    Graphic (cs ++ ds) := by
  intro d among
  rcases List.mem_append.mp among with here | there
  · exact front d here
  · exact back d there

theorem graphic_nil : Graphic [] := by
  intro c among
  cases among

theorem digitChar_graphic {n : Nat} (h : n < 16) : 0x20 ≤ n.digitChar.toNat := by
  have all : ∀ n < 16, 0x20 ≤ n.digitChar.toNat := by decide
  exact all n h

/-- A control character is written as an escape sequence. -/
theorem escape_graphic (c : Char) : Graphic (escape c) := by
  unfold escape
  cases found : escapeLetter c with
  | some letter =>
    have graphic : 0x20 ≤ letter.toNat := by
      unfold escapeLetter at found
      split_ifs at found <;> (obtain rfl := Option.some.inj found; decide)
    exact .cons (by decide) (.cons graphic graphic_nil)
  | none =>
    dsimp only
    split_ifs with control
    · have high := digitChar_graphic (n := c.toNat / 16) (by omega)
      have low := digitChar_graphic (n := c.toNat % 16) (by omega)
      exact .cons (by decide) (.cons (by decide) (.cons (by decide) (.cons (by decide)
        (.cons high (.cons low graphic_nil)))))
    · exact .cons (Nat.le_of_not_lt control) graphic_nil

theorem quoted_graphic (s : String) : Graphic (quoted s) := by
  refine .append (.cons (by decide) ?_) (.cons (by decide) graphic_nil)
  intro c among
  obtain ⟨d, _, here⟩ := List.mem_flatMap.mp among
  exact escape_graphic d c here

theorem toDigits_graphic (n : Nat) : Graphic (Nat.toDigits 10 n) := by
  intro c among
  have digit := Nat.isDigit_of_mem_toDigits (by decide) (by decide) among
  simp only [Char.isDigit, ge_iff_le, Bool.and_eq_true, decide_eq_true_eq] at digit
  have large : ('0' : Char).toNat ≤ c.toNat := digit.1
  have zero : ('0' : Char).toNat = 48 := rfl
  omega

theorem graphic_of_all {cs : List Char} (h : (cs.all fun c => decide (0x20 ≤ c.toNat)) = true) :
    Graphic cs := by
  intro c among
  exact of_decide_eq_true (List.all_eq_true.mp h c among)

mutual

/-- The text of a value has no control character. -/
theorem compact_graphic (x : Json) (h : x.plain = true) : Graphic (compact x) := by
  match x with
  | null | bool true | bool false | array [] | object [] => exact graphic_of_all (by decide)
  | natural n => exact toDigits_graphic n
  | string s => exact quoted_graphic s
  | numeral text => exact nomatch h
  | array (x :: xs) =>
    obtain ⟨first, others⟩ := Bool.and_eq_true_iff.mp h
    exact .append (.cons (by decide) (compact_graphic x first)) (compactItems_graphic xs others)
  | object ((k, x) :: xs) =>
    obtain ⟨first, others⟩ := Bool.and_eq_true_iff.mp h
    have value := (compact_graphic x first).append (compactFields_graphic xs others)
    rw [compact, List.append_assoc]
    exact .append (.cons (by decide) (quoted_graphic k)) (.cons (by decide) value)

theorem compactItems_graphic (xs : List Json) (h : plainItems xs = true) :
    Graphic (compactItems xs) := by
  match xs with
  | [] => exact .cons (by decide) graphic_nil
  | x :: xs =>
    obtain ⟨first, others⟩ := Bool.and_eq_true_iff.mp h
    exact .append (.cons (by decide) (compact_graphic x first)) (compactItems_graphic xs others)

theorem compactFields_graphic (xs : List (String × Json)) (h : plainFields xs = true) :
    Graphic (compactFields xs) := by
  match xs with
  | [] => exact .cons (by decide) graphic_nil
  | (k, x) :: xs =>
    obtain ⟨first, others⟩ := Bool.and_eq_true_iff.mp h
    have value := (compact_graphic x first).append (compactFields_graphic xs others)
    rw [compactFields, List.append_assoc]
    exact .append (.cons (by decide) (quoted_graphic k)) (.cons (by decide) value)

end

/-- The bytes of a text are those of its characters. -/
theorem utf8_ofList (cs : List Char) :
    utf8 (String.ofList cs) = cs.flatMap String.utf8EncodeChar := by
  simp [utf8, List.utf8Encode]

theorem utf8EncodeChar_graphic {c : Char} (h : 0x20 ≤ c.toNat) :
    ∀ b ∈ String.utf8EncodeChar c, 0x20 ≤ b.toNat := by
  have value : c.val.toNat = c.toNat := rfl
  have more (n : Nat) : 0x20 ≤ (UInt8.ofNat (n % 0x40 + 0x80)).toNat := by
    rw [UInt8.toNat_ofNat']
    omega
  unfold String.utf8EncodeChar
  dsimp only
  rw [value]
  split_ifs with one two three <;>
    simp only [List.mem_cons, List.not_mem_nil, or_false, forall_eq_or_imp, forall_eq, more, and_true]
  all_goals
    rw [UInt8.toNat_ofNat']
    omega

/-- A text without control characters is bytes above them. -/
theorem Graphic.bytes {cs : List Char} (h : Graphic cs) :
    ∀ b ∈ utf8 (String.ofList cs), 0x20 ≤ b.toNat := by
  intro b among
  rw [utf8_ofList] at among
  obtain ⟨c, here, inside⟩ := List.mem_flatMap.mp among
  exact utf8EncodeChar_graphic (h c here) b inside

/-- The bytes of some ASCII characters, and what follows them. -/
theorem utf8_ascii {front : List Char} (ascii : ∀ c ∈ front, c.toNat ≤ 0x7f) (cs : List Char) :
    utf8 (String.ofList (front ++ cs)) =
      front.map (fun c => UInt8.ofNat c.toNat) ++ utf8 (String.ofList cs) := by
  simp only [utf8_ofList, List.flatMap_append]
  congr 1
  induction front with
  | nil => rfl
  | cons c front ih =>
    have one : String.utf8EncodeChar c = [UInt8.ofNat c.toNat] := if_pos (ascii c List.mem_cons_self)
    rw [List.flatMap_cons, one, ih fun d later => ascii d (List.mem_cons_of_mem c later)]
    rfl

/-- Where the text of an object may begin. -/
def opensObject (c : Char) : Bool := isBlank c || c = '\x7b'

theorem ascii_of_opensObject {c : Char} (h : opensObject c = true) : c.toNat ≤ 0x7f := by
  simp only [opensObject, isBlank, Bool.or_eq_true, decide_eq_true_eq] at h
  rcases h with (rfl | rfl | rfl | rfl) | rfl <;> decide

theorem opensObject_of_skip {cs ds : List Char} (h : skip cs = '\x7b' :: ds) :
    ∃ c rest, cs = c :: rest ∧ opensObject c = true := by
  cases cs with
  | nil => cases h
  | cons c rest =>
    refine ⟨c, rest, rfl, ?_⟩
    cases blank : isBlank c with
    | true => simp [opensObject, blank]
    | false =>
      rw [skip, List.dropWhile_cons, blank] at h
      obtain ⟨rfl, _⟩ := List.cons.inj h
      rfl

theorem readWord_value {word cs rest : List Char} {value x : Json}
    (h : readWord word value cs = some (x, rest)) : x = value := by
  unfold readWord at h
  split_ifs at h
  exact (Prod.mk.inj (Option.some.inj h)).1.symm

/-- A number is no object. -/
theorem readNumber_value {cs rest : List Char} {fields : List (String × Json)} :
    readNumber cs ≠ some (.object fields, rest) := by
  intro h
  unfold readNumber at h
  split at h
  · obtain ⟨⟨integer, cs⟩, _, h⟩ := Option.bind_eq_some_iff.mp h
    obtain ⟨⟨fraction, cs⟩, _, h⟩ := Option.bind_eq_some_iff.mp h
    obtain ⟨⟨exponent, cs⟩, _, h⟩ := Option.bind_eq_some_iff.mp h
    cases (Prod.mk.inj (Option.some.inj h)).1
  · obtain ⟨⟨integer, cs⟩, _, h⟩ := Option.bind_eq_some_iff.mp h
    obtain ⟨⟨fraction, cs⟩, _, h⟩ := Option.bind_eq_some_iff.mp h
    obtain ⟨⟨exponent, cs⟩, _, h⟩ := Option.bind_eq_some_iff.mp h
    dsimp only at h
    split_ifs at h <;> cases (Prod.mk.inj (Option.some.inj h)).1

/-- A text that is read as an object begins like one. -/
theorem readValue_object {fuel depth : Nat} {cs rest : List Char} {fields : List (String × Json)}
    (h : readValue fuel depth cs = some (.object fields, rest)) :
    ∃ c more, cs = c :: more ∧ opensObject c = true := by
  cases fuel with
  | zero =>
    rw [readValue.eq_def] at h
    cases h
  | succ fuel =>
    rw [readValue.eq_def] at h
    dsimp only at h
    cases start : skip cs with
    | nil => simp [start] at h
    | cons c tail =>
      simp only [start] at h
      split_ifs at h with string bracket brace n t f
      · obtain ⟨r, _, same⟩ := Option.map_eq_some_iff.mp h
        cases (Prod.mk.inj same).1
      · cases depth with
        | zero => cases h
        | succ depth =>
          dsimp only at h
          split at h
          · cases (Prod.mk.inj (Option.some.inj h)).1
          · obtain ⟨r, _, same⟩ := Option.map_eq_some_iff.mp h
            cases (Prod.mk.inj same).1
      · rw [brace] at start
        exact opensObject_of_skip start
      · cases readWord_value h
      · cases readWord_value h
      · cases readWord_value h
      · exact absurd h readNumber_value

theorem parse_object {cs : List Char} {fields : List (String × Json)}
    (h : parse cs = some (.object fields)) : ∃ c rest, cs = c :: rest ∧ opensObject c = true := by
  unfold parse at h
  cases read : readValue (cs.length + 1) maxDepth cs with
  | none => simp [read] at h
  | some r =>
    obtain ⟨x, rest⟩ := r
    simp only [read] at h
    split_ifs at h
    obtain rfl := Option.some.inj h
    exact readValue_object read

end Kesharon.Framework.Json
