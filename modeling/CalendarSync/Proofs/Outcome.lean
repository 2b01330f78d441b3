import CalendarSync.Outcome
import Mathlib.Tactic.SplitIfs

/-!
# Outcomes of answered attempts

An answered attempt is classified by its success flag and its error code; of the transient codes
none has another meaning.
-/

namespace CalendarSync
set_option autoImplicit false

namespace Attempt
variable {a : Attempt} {c : Completion} {code : Int32}

theorem failedCode?_complete :
    (a.complete c).failedCode? = if c.success then none else c.errorCode := by
  obtain ⟨syncedAt, success, errorCode, call⟩ := c
  cases success <;> rfl

/-- A transient failure carries a transient code. -/
theorem isTransient_complete_iff :
    (a.complete c).isTransient = true ↔
      c.success = false ∧ ∃ code, c.errorCode = some code ∧
        CodeKind.ofCode? code = some .transient := by
  rw [isTransient, failedWith, failedCode?_complete]
  cases c.success <;> simp [Option.bind_eq_some_iff]

/-- What becomes of an attempt that is answered. -/
theorem outcome_complete : (a.complete c).outcome =
    if c.success then .ok .succeeded
    else if a.operation = .create ∧ c.errorCode = some itemExistsCode then .ok .createdBefore
    else if a.operation = .update ∧ c.errorCode = some itemMissingCode then .ok .missingInPlanner
    else match c.errorCode with
      | none => .ok (.unclassified none)
      | some code =>
        match CodeKind.ofCode? code with
        | some .plannerOriginated => .ok (.plannerOriginated plannerOriginatedCode)
        | some .fatal => .ok (.fatal code)
        | some .transient => .ok (.transient code)
        | none => .ok (.unclassified (some code)) := by
  simp only [outcome, isCreatedBefore, isMissingInPlanner, failedCode?_complete]
  cases h : c.success with
  | true => simp [complete, h]
  | false =>
    cases code : c.errorCode with
    | none => simp [complete, h, code]
    | some code' =>
      cases kind : CodeKind.ofCode? code' with
      | none => simp [complete, h, code, kind]
      | some k => cases k <;> simp [complete, h, code, kind]

/-- Every answered attempt can be classified. -/
theorem exists_outcome_complete (a : Attempt) (c : Completion) :
    ∃ o, (a.complete c).outcome = .ok o := by
  rw [outcome_complete]
  split_ifs
  · exact ⟨_, rfl⟩
  · exact ⟨_, rfl⟩
  · exact ⟨_, rfl⟩
  · split
    · exact ⟨_, rfl⟩
    · split <;> exact ⟨_, rfl⟩

/-- The codes of transient failures have no other meaning. -/
theorem outcome_complete_transient_iff :
    (∃ code, (a.complete c).outcome = .ok (.transient code)) ↔
      (a.complete c).isTransient = true := by
  have exists_fatal : CodeKind.ofCode? itemExistsCode = some .fatal := by decide
  have missing_fatal : CodeKind.ofCode? itemMissingCode = some .fatal := by decide
  rw [isTransient_complete_iff, outcome_complete]
  constructor
  · rintro ⟨code, h⟩
    grind
  · rintro ⟨failed, code, carries, kind⟩
    have not_exists : code ≠ itemExistsCode := by grind
    have not_missing : code ≠ itemMissingCode := by grind
    exact ⟨code, by simp [failed, carries, kind, not_exists, not_missing]⟩

/-- The attempt left an item in the Planner, or was closed as if it had. -/
def isEffective (a : Attempt) : Bool :=
  match a.outcome with
  | .ok outcome => outcome.isEffectiveSuccess
  | .error _ => false

theorem success_of_isCreatedBefore (before : a.isCreatedBefore = true) :
    a.success = some false := by
  have code : a.failedCode? = some itemExistsCode := by
    simpa [isCreatedBefore] using (Bool.and_eq_true_iff.1 before).2
  unfold failedCode? isFailed at code
  split at code
  · rename_i failed
    simpa using failed
  · cases code

theorem isEffective_iff :
    a.isEffective = true ↔
      a.isPending = false ∧ (a.success = some true ∨ a.isCreatedBefore = true) := by
  unfold isEffective outcome isPending
  cases success : a.success with
  | none =>
    have other : a.isCreatedBefore = false := by
      rw [← Bool.not_eq_true]
      intro before
      rw [success_of_isCreatedBefore before] at success
      cases success
    simp [other]
  | some success' =>
    cases synced : a.syncedAt with
    | none => simp
    | some instant =>
      cases success' with
      | true => simp [Outcome.isEffectiveSuccess]
      | false =>
        by_cases before : a.isCreatedBefore = true
        · simp [before, Outcome.isEffectiveSuccess]
        · simp only [before]
          grind [Outcome.isEffectiveSuccess]

theorem isEffective_complete_iff : (a.complete c).isEffective = true ↔
    c.success = true ∨
      a.operation = .create ∧ c.success = false ∧ c.errorCode = some itemExistsCode := by
  rw [isEffective_iff]
  simp only [isCreatedBefore, failedCode?_complete]
  cases h : c.success <;> simp [complete, isPending, h]

/-- The outcome of an attempt that left an item in the Planner. -/
theorem exists_complete_of_isEffective (effective : a.isEffective = true) :
    ∃ c, a.complete c = a := by
  obtain ⟨closed, success⟩ := isEffective_iff.1 effective
  obtain ⟨instant, synced⟩ : ∃ instant, a.syncedAt = some instant := by
    simpa [isPending, Option.isNone_eq_false_iff, Option.isSome_iff_exists] using closed
  obtain ⟨success', success⟩ : ∃ success', a.success = some success' := by
    rcases success with success | before
    · exact ⟨true, success⟩
    · exact ⟨false, success_of_isCreatedBefore before⟩
  refine ⟨⟨instant, success', a.errorCode, a.call⟩, ?_⟩
  simp [complete, ← synced, ← success]

/-- A transient failure is no success of any kind. -/
theorem isEffective_of_isTransient (transient : a.isTransient = true) : a.isEffective = false := by
  have exists_fatal : CodeKind.ofCode? itemExistsCode = some .fatal := by decide
  rw [← Bool.not_eq_true, isEffective_iff]
  rintro ⟨-, success | before⟩
  · simp [isTransient, failedWith, failedCode?, isFailed, success] at transient
  · have code : a.failedCode? = some itemExistsCode := by
      simpa [isCreatedBefore] using (Bool.and_eq_true_iff.1 before).2
    simp [isTransient, failedWith, code, exists_fatal] at transient

theorem isEffective_of_isPending (pending : a.isPending = true) : a.isEffective = false := by
  rw [← Bool.not_eq_true, isEffective_iff, pending]
  simp

end Attempt
end CalendarSync
