import Mathlib.Computability.Language
import Mathlib.Data.List.Chain

namespace Kesharon.Framework

open Computability

variable {α : Type*} (p q r : α → Prop) {xs : List α} {a : α}

/-- The words of one letter that satisfies a predicate. -/
def letter : Language α := {w | ∃ a, p a ∧ w = [a]}

/-- A block is opened by a `p`, goes on with `p`s and `q`s and is closed by an `r`. -/
def blocks : Language α := (letter p * (letter p + letter q)∗ * letter r)∗

/-- Blocks, the last of which is still open. -/
def openBlocks : Language α := blocks p q r * (letter p * (letter p + letter q)∗)

theorem mem_letter (h : p a) : [a] ∈ letter p := ⟨a, h, rfl⟩

variable {p q r}

theorem openBlocks_start (hxs : xs ∈ blocks p q r) (ha : p a) : xs ++ [a] ∈ openBlocks p q r := by
  refine Language.append_mem_mul hxs ?_
  have single : [a] ++ [] ∈ letter p * (letter p + letter q)∗ :=
    Language.append_mem_mul (mem_letter p ha) (Language.nil_mem_kstar _)
  simpa using single

theorem openBlocks_more (hxs : xs ∈ openBlocks p q r) (ha : p a ∨ q a) :
    xs ++ [a] ∈ openBlocks p q r := by
  have one : [a] ∈ letter p + letter q := ha.imp (mem_letter p) (mem_letter q)
  have shorter : openBlocks p q r * (letter p + letter q) ≤ openBlocks p q r := by
    unfold openBlocks
    rw [mul_assoc, mul_assoc]
    exact mul_le_mul' le_rfl (mul_le_mul' le_rfl kstar_mul_le_kstar)
  exact shorter (Language.append_mem_mul hxs one)

theorem blocks_close (hxs : xs ∈ openBlocks p q r) (ha : r a) : xs ++ [a] ∈ blocks p q r := by
  have shorter : openBlocks p q r * letter r ≤ blocks p q r := by
    unfold openBlocks
    rw [mul_assoc]
    exact kstar_mul_le_kstar
  exact shorter (Language.append_mem_mul hxs (mem_letter r ha))

/-- A word of the three kinds of letters that starts with a `p`, and has only `p`s after an `r`,
can be completed to blocks. -/
theorem prefix_of_blocks (letters : ∀ a ∈ xs, p a ∨ q a ∨ r a) (first : ∀ a ∈ xs.head?, p a)
    (chain : xs.IsChain fun a b => p b ∨ ¬ r a) (closes : ∃ a, r a) :
    ∃ rest, xs ++ rest ∈ blocks p q r := by
  have split : (xs ∈ blocks p q r ∧ ∀ a ∈ xs.getLast?, r a) ∨ xs ∈ openBlocks p q r := by
    induction xs using List.reverseRecOn with
    | nil => exact .inl ⟨Language.nil_mem_kstar _, by simp⟩
    | append_singleton xs a ih =>
      obtain ⟨hxs, -, hlast⟩ := List.isChain_append.mp chain
      have known := letters a (by simp)
      have before := ih (fun b hb => letters b (by simp [hb]))
        (fun b hb => first b (by cases xs <;> simp_all)) hxs
      rcases before with ⟨closed, last⟩ | opened
      · have start : p a := by
          cases hl : xs.getLast? with
          | none =>
            obtain rfl := List.getLast?_eq_none_iff.mp hl
            exact first a (by simp)
          | some b => exact (hlast b hl a (by simp)).resolve_right (not_not.mpr (last b hl))
        exact .inr (openBlocks_start closed start)
      · rcases known with hp | hq | hr
        · exact .inr (openBlocks_more opened (.inl hp))
        · exact .inr (openBlocks_more opened (.inr hq))
        · refine .inl ⟨blocks_close opened hr, ?_⟩
          intro b hb
          obtain rfl : a = b := by simpa using hb
          exact hr
  rcases split with ⟨closed, -⟩ | opened
  · exact ⟨[], by simpa using closed⟩
  · obtain ⟨a, ha⟩ := closes
    exact ⟨[a], blocks_close opened ha⟩

end Kesharon.Framework
