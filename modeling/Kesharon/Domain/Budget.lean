import Kesharon.Domain.Id

namespace Kesharon.Domain

/-- Token limits come all three together and are positive, or not at all. -/
def TokenLimitsValid : Option UInt64 → Option UInt64 → Option UInt64 → Prop
  | none, none, none => True
  | some prompt, some completion, some cost => prompt ≠ 0 ∧ completion ≠ 0 ∧ cost ≠ 0
  | _, _, _ => False

instance (p c m : Option UInt64) : Decidable (TokenLimitsValid p c m) :=
  match p, c, m with
  | none, none, none => .isTrue trivial
  | some p, some c, some m => inferInstanceAs (Decidable (p ≠ 0 ∧ c ≠ 0 ∧ m ≠ 0))
  | none, none, some _ | none, some _, none | none, some _, some _ | some _, none, none
  | some _, none, some _ | some _, some _, none => .isFalse id

@[ext] structure ResourceBudget where
  maxMemoryBytes : UInt64
  maxDiskWriteBytes : UInt64
  maxConcurrentTools : UInt16
  maxPromptTokens : Option UInt64
  maxCompletionTokens : Option UInt64
  maxCostMicros : Option UInt64
  memory_ne : maxMemoryBytes ≠ 0
  disk_ne : maxDiskWriteBytes ≠ 0
  tools_ne : maxConcurrentTools ≠ 0
  limits_valid : TokenLimitsValid maxPromptTokens maxCompletionTokens maxCostMicros
  deriving DecidableEq

namespace ResourceBudget

def new (maxMemoryBytes maxDiskWriteBytes : UInt64) (maxConcurrentTools : UInt16) :
    Except TaskError ResourceBudget :=
  if h : maxMemoryBytes = 0 ∨ maxDiskWriteBytes = 0 ∨ maxConcurrentTools = 0 then
    .error .invalidResourceBudget
  else
    .ok ⟨maxMemoryBytes,maxDiskWriteBytes,maxConcurrentTools,none,none,none,
      fun e => h (.inl e),fun e => h (.inr (.inl e)),fun e => h (.inr (.inr e)),trivial⟩

def withTokenLimits (b : ResourceBudget)
    (maxPromptTokens maxCompletionTokens maxCostMicros : UInt64) :
    Except TaskError ResourceBudget :=
  if h : maxPromptTokens = 0 ∨ maxCompletionTokens = 0 ∨ maxCostMicros = 0 then
    .error .invalidResourceBudget
  else
    .ok { b with
      maxPromptTokens := some maxPromptTokens
      maxCompletionTokens := some maxCompletionTokens
      maxCostMicros := some maxCostMicros
      limits_valid := ⟨fun e => h (.inl e),fun e => h (.inr (.inl e)),fun e => h (.inr (.inr e))⟩ }

/-- The two constructors rebuild a budget from its own fields. -/
theorem rebuild (b : ResourceBudget) :
    ∃ base, new b.maxMemoryBytes b.maxDiskWriteBytes b.maxConcurrentTools = .ok base ∧
      (match b.maxPromptTokens, b.maxCompletionTokens, b.maxCostMicros with
        | some p, some c, some m => base.withTokenLimits p c m
        | _, _, _ => .ok base) = .ok b := by
  obtain ⟨mem,disk,tools,p,c,m,hmem,hdisk,htools,hv⟩ := b
  refine ⟨⟨mem,disk,tools,none,none,none,hmem,hdisk,htools,trivial⟩, ?_, ?_⟩
  · simp [new, hmem, hdisk, htools]
  · cases p <;> cases c <;> cases m <;> simp only [TokenLimitsValid] at hv
    · rfl
    · simp [withTokenLimits, hv]

end ResourceBudget

end Kesharon.Domain
