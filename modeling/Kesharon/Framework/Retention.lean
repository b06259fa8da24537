import Kesharon.Framework.Fifo
import Mathlib.Data.List.Induction
import Mathlib.Logic.Function.Iterate

namespace Kesharon.Framework

variable {κ γ : Type*}

/-- One turn of the loop `while order.len() > limit`, whose body pops the front of the queue
and forgets it. -/
def evictPass (limit : Nat) (forget : γ → κ → γ) (p : List κ × γ) : List κ × γ :=
  if limit < p.1.length then
    match p.1 with
    | [] => p
    | expired :: rest => (rest, forget p.2 expired)
  else p

/-- The loop stops: after as many turns as there are entries too many its condition is false,
and it has computed `evict`. -/
theorem evictPass_iterate (limit : Nat) (forget : γ → κ → γ) (order : List κ) (m : γ) :
    (evictPass limit forget)^[order.length - limit] (order, m) = evict limit forget order m := by
  induction order generalizing m with
  | nil => simp [evict]
  | cons expired rest ih =>
    unfold evict
    by_cases h : limit < rest.length + 1
    · have hn : (expired :: rest).length - limit = rest.length - limit + 1 := by
        rw [List.length_cons]
        omega
      have turn : evictPass limit forget (expired :: rest, m) = (rest, forget m expired) := by
        simp [evictPass, h]
      rw [if_pos h, hn, Function.iterate_succ_apply, turn, ih]
    · have hn : (expired :: rest).length - limit = 0 := by
        rw [List.length_cons]
        omega
      rw [if_neg h, hn]
      rfl

theorem evict_fst (limit : Nat) (forget : γ → κ → γ) (order : List κ) (m : γ) :
    (evict limit forget order m).1 = window limit order := by
  induction order generalizing m with
  | nil => simp [evict]
  | cons expired rest ih =>
    unfold evict
    by_cases h : limit < rest.length + 1
    · rw [if_pos h, window_cons h, ih]
    · rw [if_neg h, window_of_length_le (by rw [List.length_cons]; omega)]

theorem window_length_le (limit : Nat) (xs : List κ) : (window limit xs).length ≤ limit := by
  rw [window, List.length_drop]
  omega

theorem window_sublist (limit : Nat) (xs : List κ) : List.Sublist (window limit xs) xs :=
  List.drop_sublist _ _

/-- The window after one more element. -/
theorem window_snoc {limit : Nat} (pos : 0 < limit) (xs : List κ) (x : κ) :
    window limit (xs ++ [x]) = window (limit - 1) xs ++ [x] := by
  have hn : (xs ++ [x]).length - limit = xs.length - (limit - 1) := by
    rw [List.length_append, List.length_singleton]
    omega
  rw [window, window, hn, List.drop_append_of_le_length (by omega)]

theorem window_mono {m n : Nat} (h : m ≤ n) {xs : List κ} {x : κ} (hx : x ∈ window m xs) :
    x ∈ window n xs := by
  obtain ⟨i, hi, hlen⟩ := mem_window hx
  exact getElem_mem_window hi (by omega)

/-- A queue lists the members of a bounded collection, each once. -/
structure Queued [Membership κ γ] (limit : Nat) (order : List κ) (m : γ) : Prop where
  mem_iff : ∀ k, k ∈ order ↔ k ∈ m
  nodup : order.Nodup
  length_le : order.length ≤ limit

section Queued

variable [Membership κ γ] {limit : Nat} {forget : γ → κ → γ}

/-- Eviction keeps the queue and the collection together. -/
theorem evict_queued (erases : ∀ m k k', k' ∈ forget m k ↔ k' ≠ k ∧ k' ∈ m) {order : List κ}
    {m : γ} (lists : ∀ k, k ∈ order ↔ k ∈ m) (nodup : order.Nodup) :
    Queued limit (evict limit forget order m).1 (evict limit forget order m).2 := by
  induction order generalizing m with
  | nil => exact ⟨lists, nodup, Nat.zero_le _⟩
  | cons expired rest ih =>
    obtain ⟨hnew, hrest⟩ := List.nodup_cons.mp nodup
    unfold evict
    by_cases h : limit < rest.length + 1
    · rw [if_pos h]
      apply ih _ hrest
      intro k
      rw [erases, ← lists, List.mem_cons]
      constructor
      · intro hk
        exact ⟨fun he => hnew (he ▸ hk), .inr hk⟩
      · intro hk
        exact hk.2.resolve_left hk.1
    · rw [if_neg h]
      exact ⟨lists, nodup, by rw [List.length_cons]; omega⟩

/-- A member is added and goes to the end of the queue, unless it is there. -/
theorem Queued.remember {order : List κ} {m m' : γ} (h : Queued limit order m)
    (erases : ∀ m k k', k' ∈ forget m k ↔ k' ≠ k ∧ k' ∈ m) (k : κ) [Decidable (k ∈ m)]
    (adds : ∀ k', k' ∈ m' ↔ k' = k ∨ k' ∈ m) :
    Queued limit (evict limit forget (if k ∈ m then order else order ++ [k]) m').1
      (evict limit forget (if k ∈ m then order else order ++ [k]) m').2 := by
  apply evict_queued erases
  · intro k'
    rw [adds]
    split_ifs with hk
    · rw [h.mem_iff]
      exact ⟨.inr, fun hk' => hk'.elim (fun he => he ▸ hk) id⟩
    · rw [List.mem_append, List.mem_singleton, h.mem_iff, or_comm]
  · split_ifs with hk
    · exact h.nodup
    · have hnew : k ∉ order := fun hin => hk ((h.mem_iff k).mp hin)
      exact List.nodup_append.mpr ⟨h.nodup, List.nodup_singleton k, fun a ha b hb he =>
        hnew (List.mem_singleton.mp hb ▸ he ▸ ha)⟩

end Queued

section Recent

variable [DecidableEq κ]

/-- Put an element at the end of a queue of at most `limit`, unless it is there already. -/
def enrol (limit : Nat) (order : List κ) (x : κ) : List κ :=
  if x ∈ order then order else window limit (order ++ [x])

/-- The queue after enrolling a list of elements one by one. -/
def recent (limit : Nat) (xs : List κ) : List κ := xs.foldl (enrol limit) []

/-- The element an enrolment drops. -/
def expired (limit : Nat) (order : List κ) (x : κ) : Option κ :=
  if x ∈ order ∨ order.length < limit then none else order.head?

theorem recent_snoc (limit : Nat) (xs : List κ) (x : κ) :
    recent limit (xs ++ [x]) = enrol limit (recent limit xs) x := by
  rw [recent, List.foldl_append]
  rfl

variable {limit : Nat} {order : List κ}

theorem enrol_length_le (h : order.length ≤ limit) (x : κ) : (enrol limit order x).length ≤ limit := by
  unfold enrol
  split_ifs
  · exact h
  · exact window_length_le _ _

theorem enrol_nodup (h : order.Nodup) (x : κ) : (enrol limit order x).Nodup := by
  unfold enrol
  split_ifs with hx
  · exact h
  · apply (window_sublist _ _).nodup
    exact List.nodup_append.mpr ⟨h, List.nodup_singleton x, fun a ha b hb he =>
      hx (List.mem_singleton.mp hb ▸ he ▸ ha)⟩

theorem recent_length_le (limit : Nat) (xs : List κ) : (recent limit xs).length ≤ limit := by
  induction xs using List.reverseRecOn with
  | nil => exact Nat.zero_le _
  | append_singleton xs x ih =>
    rw [recent_snoc]
    exact enrol_length_le ih x

theorem recent_nodup (limit : Nat) (xs : List κ) : (recent limit xs).Nodup := by
  induction xs using List.reverseRecOn with
  | nil => exact List.nodup_nil
  | append_singleton xs x ih =>
    rw [recent_snoc]
    exact enrol_nodup ih x

/-- An enrolment adds its element and drops at most the expired one. -/
theorem mem_enrol (pos : 0 < limit) (hl : order.length ≤ limit) (hn : order.Nodup) (x y : κ) :
    y ∈ enrol limit order x ↔ y = x ∨ (y ∈ order ∧ expired limit order x ≠ some y) := by
  unfold enrol expired
  by_cases hx : x ∈ order
  · rw [if_pos hx, if_pos (.inl hx)]
    constructor
    · intro hy
      exact .inr ⟨hy, by simp⟩
    · intro hy
      rcases hy with rfl | hy
      · exact hx
      · exact hy.1
  · rw [if_neg hx, window_snoc pos, List.mem_append, List.mem_singleton, or_comm]
    by_cases hlt : order.length < limit
    · rw [if_pos (.inr hlt), window_of_length_le (by omega)]
      simp
    · rw [if_neg (by simp [hx, hlt])]
      cases order with
      | nil => exact absurd pos (by simpa using hlt)
      | cons h rest =>
        have full : limit - 1 < rest.length + 1 := by
          rw [List.length_cons] at hlt
          omega
        have kept : rest.length ≤ limit - 1 := by
          rw [List.length_cons] at hl
          omega
        rw [window_cons full, window_of_length_le kept, List.head?_cons]
        obtain ⟨hnew, _⟩ := List.nodup_cons.mp hn
        constructor
        · intro hy
          rcases hy with rfl | hy
          · exact .inl rfl
          · refine .inr ⟨List.mem_cons_of_mem _ hy, ?_⟩
            intro he
            exact hnew (Option.some.inj he ▸ hy)
        · intro hy
          rcases hy with rfl | ⟨hy, hne⟩
          · exact .inl rfl
          · rcases List.mem_cons.mp hy with rfl | hy
            · exact absurd rfl hne
            · exact .inr hy

theorem mem_of_mem_recent {xs : List κ} {x : κ} (h : x ∈ recent limit xs) : x ∈ xs := by
  induction xs using List.reverseRecOn with
  | nil => exact h
  | append_singleton xs y ih =>
    rw [recent_snoc, enrol] at h
    split_ifs at h
    · exact List.mem_append_left _ (ih h)
    · rcases List.mem_append.mp ((window_sublist _ _).subset h) with hx | hx
      · exact List.mem_append_left _ (ih hx)
      · exact List.mem_append_right _ hx

/-- Without repetitions the queue is the window. -/
theorem recent_of_nodup {xs : List κ} (h : xs.Nodup) : recent limit xs = window limit xs := by
  induction xs using List.reverseRecOn with
  | nil => simp [recent]
  | append_singleton xs x ih =>
    obtain ⟨hxs, _, apart⟩ := List.nodup_append.mp h
    have hnew : x ∉ window limit xs := by
      intro hx
      exact apart x ((window_sublist _ _).subset hx) x (List.mem_singleton_self x) rfl
    rw [recent_snoc, ih hxs, enrol, if_neg hnew, ← window_append_singleton]

/-- Every recent element that is not excused is still enrolled. -/
def Remembered (limit : Nat) (excused : κ → Prop) (xs : List κ) : Prop :=
  ∀ x ∈ window limit xs, ¬excused x → x ∈ recent limit xs

/-- One more element, and excuses that differ at most on it: recent elements stay enrolled
exactly if the one that expires is not recent, or excused. -/
theorem remembered_snoc (pos : 0 < limit) {excused excused' : κ → Prop} {xs : List κ} {x : κ}
    (h : Remembered limit excused xs) (same : ∀ y, y ≠ x → (excused' y ↔ excused y)) :
    Remembered limit excused' (xs ++ [x]) ↔
      ∀ y, expired limit (recent limit xs) x = some y → y ∈ window (limit - 1) xs → excused y := by
  have mem := mem_enrol pos (recent_length_le limit xs) (recent_nodup limit xs) x
  have dropped {y : κ} (he : expired limit (recent limit xs) x = some y) : y ≠ x := by
    unfold expired at he
    split_ifs at he with hx
    rintro rfl
    exact hx (.inl (List.mem_of_mem_head? he))
  constructor
  · intro h' y he hy
    by_contra hn
    have hne := dropped he
    have hin : y ∈ recent limit (xs ++ [x]) := by
      apply h'
      · rw [window_snoc pos]
        exact List.mem_append_left _ hy
      · rwa [same y hne]
    rw [recent_snoc, mem] at hin
    exact hin.elim hne fun hin => hin.2 he
  · intro spared y hy hn
    rw [recent_snoc, mem]
    by_cases hyx : y = x
    · exact .inl hyx
    · rw [window_snoc pos, List.mem_append, List.mem_singleton] at hy
      have hold : y ∈ window (limit - 1) xs := hy.resolve_right hyx
      rw [same y hyx] at hn
      refine .inr ⟨h y (window_mono (Nat.sub_le _ _) hold) hn, ?_⟩
      intro he
      exact hn (spared y he hold)

end Recent

end Kesharon.Framework
