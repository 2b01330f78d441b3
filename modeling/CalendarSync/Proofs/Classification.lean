import CalendarSync.Proofs.Outcome
import CalendarSync.Proofs.World
import Mathlib.Logic.ExistsUnique

/-!
# Two verdicts on an attempt

Predicates on an attempt decide what is sent again, and the outcome to which an answered attempt is
classified decides what is reported. Both look its code up in one table; the predicates ask for one
meaning each, and the outcome is found by asking in turn. The verdicts are the same for every
attempt, and they leave one outcome only.
-/

namespace CalendarSync
set_option autoImplicit false

/-! ## Meanings and categories -/

/-- The category of a failure whose code has a meaning. -/
def CodeKind.category : CodeKind → Category
  | fatal => .fatal
  | plannerOriginated => .plannerOriginated
  | transient => .transient

/-- The outcome of a failure whose code has a meaning and is no special case. -/
def CodeKind.outcome (code : Int32) : CodeKind → Outcome
  | fatal => .fatal code
  | plannerOriginated => .plannerOriginated plannerOriginatedCode
  | transient => .transient code

/-- The category of a failure by its code, if it has one. -/
def Category.ofCode (code : Option Int32) : Category :=
  match code.bind CodeKind.ofCode? with
  | some kind => kind.category
  | none => .unclassified

/-- The predicates put an attempt into the category. -/
def Category.Applies (c : Category) (a : Attempt) : Prop :=
  match c with
  | fatal => a.isFatal = true
  | plannerOriginated => a.isPlannerOriginated = true
  | transient => a.isTransient = true
  | unclassified => a.isFailed = true ∧
      a.isFatal = false ∧ a.isPlannerOriginated = false ∧ a.isTransient = false

namespace CodeKind

@[simp] theorem category?_outcome (kind : CodeKind) (code : Int32) :
    (kind.outcome code).category? = some kind.category := by
  cases kind <;> rfl

/-- Only one code reports an edit in the Planner. -/
theorem eq_plannerOriginatedCode {code : Int32} (meaning : ofCode? code = some .plannerOriginated) :
    code = plannerOriginatedCode := by
  unfold ofCode? at meaning
  split_ifs at meaning with here
  · exact here
  all_goals cases meaning

theorem code?_outcome {kind : CodeKind} {code : Int32} (meaning : ofCode? code = some kind) :
    (kind.outcome code).code? = some code := by
  cases kind with
  | plannerOriginated => rw [eq_plannerOriginatedCode meaning]; rfl
  | _ => rfl

theorem ofCode_eq_category_iff {kind : CodeKind} {code : Option Int32} :
    Category.ofCode code = kind.category ↔ code.bind ofCode? = some kind := by
  unfold Category.ofCode
  cases code.bind ofCode? with
  | none => cases kind <;> simp [category]
  | some kind' => cases kind <;> cases kind' <;> simp [category]

theorem ofCode_eq_unclassified_iff {code : Option Int32} :
    Category.ofCode code = .unclassified ↔ code.bind ofCode? = none := by
  unfold Category.ofCode
  cases code.bind ofCode? with
  | none => simp
  | some kind => cases kind <;> simp [category]

theorem ofCode?_itemExistsCode : ofCode? itemExistsCode = some .fatal := by decide

theorem ofCode?_itemMissingCode : ofCode? itemMissingCode = some .fatal := by decide

end CodeKind

namespace Attempt
variable {a : Attempt} {o : Outcome} {code : Int32}

theorem isFailed_iff : a.isFailed = true ↔ a.success = some false := by
  simp [isFailed]

theorem failedCode?_eq_some_iff :
    a.failedCode? = some code ↔ a.isFailed = true ∧ a.errorCode = some code := by
  unfold failedCode?
  split <;> simp_all

theorem failedWith_iff {kind : CodeKind} : a.failedWith kind = true ↔
    a.isFailed = true ∧ a.errorCode.bind CodeKind.ofCode? = some kind := by
  unfold failedWith failedCode?
  split <;> simp_all

theorem isCreatedBefore_iff : a.isCreatedBefore = true ↔
    a.operation = .create ∧ a.isFailed = true ∧ a.errorCode = some itemExistsCode := by
  simp [isCreatedBefore, failedCode?_eq_some_iff]

theorem isMissingInPlanner_iff : a.isMissingInPlanner = true ↔
    a.operation = .update ∧ a.isFailed = true ∧ a.errorCode = some itemMissingCode := by
  simp [isMissingInPlanner, failedCode?_eq_some_iff]

/-- Of the conditions on what is sent again, the last one implies the others. -/
theorem qualifiesForResend_eq : a.qualifiesForResend = a.isTransient := by
  cases transient : a.isTransient with
  | false => simp [qualifiesForResend, transient]
  | true =>
    have meaning : a.failedCode?.bind CodeKind.ofCode? = some .transient := by
      simpa [isTransient, failedWith] using transient
    have carries : a.failedCode?.isSome = true := by
      obtain ⟨code, carries, -⟩ := Option.bind_eq_some_iff.1 meaning
      rw [carries, Option.isSome_some]
    simp [qualifiesForResend, isPlannerOriginated, isFatal, failedWith, transient, meaning, carries]

/-- The predicates put a failure into the category of its code, and nothing else into any. -/
theorem applies_iff {c : Category} :
    c.Applies a ↔ a.isFailed = true ∧ Category.ofCode a.errorCode = c := by
  have known (kind : CodeKind) : a.failedWith kind = true ↔ _ := failedWith_iff
  have fatal := known .fatal
  have originated := known .plannerOriginated
  have transient := known .transient
  cases failed : a.isFailed with
  | false => cases c <;> simp_all [Category.Applies, isFatal, isPlannerOriginated, isTransient]
  | true =>
    unfold Category.ofCode
    cases meaning : a.errorCode.bind CodeKind.ofCode? with
    | none =>
      cases c <;>
        simp_all [Category.Applies, isFatal, isPlannerOriginated, isTransient]
    | some kind =>
      cases kind <;> cases c <;>
        simp_all [Category.Applies, isFatal, isPlannerOriginated, isTransient, CodeKind.category]

/-! ## The outcome -/

/-- The attempt has failed and is neither of the special cases. -/
structure IsPlain (a : Attempt) : Prop where
  failed : a.isFailed = true
  not_before : a.isCreatedBefore = false
  not_missing : a.isMissingInPlanner = false

/-- What an attempt is classified to, if its answer has been recorded. -/
inductive Classified (a : Attempt) : Outcome → Prop where
  | succeeded (success : a.success = some true) : a.Classified .succeeded
  | createdBefore (before : a.isCreatedBefore = true) : a.Classified .createdBefore
  | missingInPlanner (missing : a.isMissingInPlanner = true) : a.Classified .missingInPlanner
  | coded {code : Int32} {kind : CodeKind} (plain : a.IsPlain) (carries : a.errorCode = some code)
      (meaning : CodeKind.ofCode? code = some kind) : a.Classified (kind.outcome code)
  | unclassified (plain : a.IsPlain) (unknown : a.errorCode.bind CodeKind.ofCode? = none) :
      a.Classified (.unclassified a.errorCode)

theorem Classified.outcome_eq (classified : a.Classified o) (synced : a.syncedAt.isSome = true) :
    a.outcome = .ok o := by
  have present : a.syncedAt.isNone = false := by simpa using synced
  cases classified with
  | succeeded success => simp [outcome, success, present]
  | createdBefore before => simp [outcome, success_of_isCreatedBefore before, present, before]
  | missingInPlanner missing =>
    obtain ⟨update, failed, -⟩ := isMissingInPlanner_iff.1 missing
    have other : a.isCreatedBefore = false := by simp [isCreatedBefore, update]
    simp [outcome, isFailed_iff.1 failed, present, missing, other]
  | @coded code kind plain carries meaning =>
    obtain ⟨failed, not_before, not_missing⟩ := plain
    cases kind <;>
      simp [outcome, isFailed_iff.1 failed, present, not_before, not_missing, carries, meaning,
        CodeKind.outcome]
  | unclassified plain unknown =>
    obtain ⟨failed, not_before, not_missing⟩ := plain
    cases carries : a.errorCode with
    | none => simp [outcome, isFailed_iff.1 failed, present, not_before, not_missing, carries]
    | some code =>
      have meaning : CodeKind.ofCode? code = none := by simpa [carries] using unknown
      simp [outcome, isFailed_iff.1 failed, present, not_before, not_missing, carries, meaning]

theorem exists_classified (answered : a.success.isSome = true) : ∃ o, a.Classified o := by
  obtain ⟨success, known⟩ := Option.isSome_iff_exists.1 answered
  cases success with
  | true => exact ⟨_, .succeeded known⟩
  | false =>
    by_cases before : a.isCreatedBefore = true
    · exact ⟨_, .createdBefore before⟩
    by_cases missing : a.isMissingInPlanner = true
    · exact ⟨_, .missingInPlanner missing⟩
    have plain : a.IsPlain := ⟨isFailed_iff.2 known, by simpa using before, by simpa using missing⟩
    cases meaning : a.errorCode.bind CodeKind.ofCode? with
    | none => exact ⟨_, .unclassified plain meaning⟩
    | some kind =>
      obtain ⟨code, carries, meaning⟩ := Option.bind_eq_some_iff.1 meaning
      exact ⟨_, .coded plain carries meaning⟩

/-- Without a success flag, or without the time of the answer, nothing is classified. -/
theorem isSome_of_outcome (classified : a.outcome = .ok o) :
    a.syncedAt.isSome = true ∧ a.success.isSome = true := by
  unfold outcome at classified
  cases answered : a.success with
  | none => simp [answered] at classified
  | some success =>
    cases synced : a.syncedAt with
    | none => simp [answered, synced] at classified
    | some instant => exact ⟨rfl, rfl⟩

theorem outcome_eq_ok_iff :
    a.outcome = .ok o ↔ a.syncedAt.isSome = true ∧ a.Classified o := by
  refine ⟨fun ok => ?_, fun ⟨synced, classified⟩ => classified.outcome_eq synced⟩
  obtain ⟨synced, answered⟩ := isSome_of_outcome ok
  obtain ⟨o', classified⟩ := exists_classified answered
  obtain rfl := Except.ok.inj (ok.symm.trans (classified.outcome_eq synced))
  exact ⟨synced, classified⟩

/-- The category of an outcome is that of the code, and only failures have one. -/
theorem Classified.category?_eq_some_iff (classified : a.Classified o) {c : Category} :
    o.category? = some c ↔ c.Applies a := by
  rw [applies_iff]
  cases classified with
  | succeeded success => simp [isFailed, success, Outcome.category?]
  | createdBefore before =>
    obtain ⟨-, failed, carries⟩ := isCreatedBefore_iff.1 before
    simp [failed, carries, Outcome.category?, Category.ofCode, CodeKind.ofCode?_itemExistsCode,
      CodeKind.category]
  | missingInPlanner missing =>
    obtain ⟨-, failed, carries⟩ := isMissingInPlanner_iff.1 missing
    simp [failed, carries, Outcome.category?, Category.ofCode, CodeKind.ofCode?_itemMissingCode,
      CodeKind.category]
  | coded plain carries meaning => simp [plain.failed, carries, meaning, Category.ofCode]
  | unclassified plain unknown =>
    simp [plain.failed, unknown, Outcome.category?, Category.ofCode]

theorem Classified.eq_succeeded_iff (classified : a.Classified o) :
    o = .succeeded ↔ a.success = some true := by
  cases classified with
  | succeeded success => simp [success]
  | createdBefore before => simp [success_of_isCreatedBefore before]
  | missingInPlanner missing => simp [isFailed_iff.1 (isMissingInPlanner_iff.1 missing).2.1]
  | @coded code kind plain => cases kind <;> simp [CodeKind.outcome, isFailed_iff.1 plain.failed]
  | unclassified plain => simp [isFailed_iff.1 plain.failed]

theorem Classified.eq_createdBefore_iff (classified : a.Classified o) :
    o = .createdBefore ↔ a.isCreatedBefore = true := by
  cases classified with
  | succeeded success => simp [isCreatedBefore_iff, isFailed_iff, success]
  | createdBefore before => simp [before]
  | missingInPlanner missing => simp [isCreatedBefore_iff, (isMissingInPlanner_iff.1 missing).1]
  | @coded code kind plain => cases kind <;> simp [CodeKind.outcome, plain.not_before]
  | unclassified plain => simp [plain.not_before]

theorem Classified.eq_missingInPlanner_iff (classified : a.Classified o) :
    o = .missingInPlanner ↔ a.isMissingInPlanner = true := by
  cases classified with
  | succeeded success => simp [isMissingInPlanner_iff, isFailed_iff, success]
  | createdBefore before => simp [isMissingInPlanner_iff, (isCreatedBefore_iff.1 before).1]
  | missingInPlanner missing => simp [missing]
  | @coded code kind plain => cases kind <;> simp [CodeKind.outcome, plain.not_missing]
  | unclassified plain => simp [plain.not_missing]

/-- A code is left out or that of the attempt, and only success and the special cases leave it
out. -/
theorem Classified.code?_eq (classified : a.Classified o) : o.code? = a.errorCode ∨
    o.code? = none ∧ (o = .succeeded ∨ o = .createdBefore ∨ o = .missingInPlanner) := by
  cases classified with
  | succeeded success => exact .inr ⟨rfl, .inl rfl⟩
  | createdBefore before => exact .inr ⟨rfl, .inr (.inl rfl)⟩
  | missingInPlanner missing => exact .inr ⟨rfl, .inr (.inr rfl)⟩
  | coded plain carries meaning => exact .inl (by rw [CodeKind.code?_outcome meaning, carries])
  | unclassified plain unknown => exact .inl rfl

end Attempt

/-! ## The verdicts agree -/

/-- The outcome says of an attempt what the predicates on the attempt say. -/
structure Outcome.Agrees (o : Outcome) (a : Attempt) : Prop where
  /-- Success is what has been answered, whatever the code. -/
  succeeded : o = .succeeded ↔ a.success = some true
  /-- A failure belongs to one category. -/
  category : a.success = some false → ∃! c : Category, c.Applies a
  /-- The category is that of the outcome. -/
  category?_eq : ∀ c : Category, o.category? = some c ↔ c.Applies a
  resent : o.qualifiesForResend = a.qualifiesForResend
  transient : a.qualifiesForResend = true ↔ o.category? = some .transient
  createdBefore : o = .createdBefore ↔ a.isCreatedBefore = true
  missingInPlanner : o = .missingInPlanner ↔ a.isMissingInPlanner = true
  special : a.isCreatedBefore = true ∨ a.isMissingInPlanner = true → o.category? = some .fatal
  /-- A code that the outcome carries is that of the attempt. -/
  code : ∀ code, o.code? = some code → a.errorCode = some code
  /-- Only a success and the special cases leave the code out. -/
  coded : o ≠ .succeeded → o ≠ .createdBefore → o ≠ .missingInPlanner → o.code? = a.errorCode

namespace Outcome
variable {o : Outcome} {a : Attempt}

theorem qualifiesForResend_iff : o.qualifiesForResend = true ↔ o.category? = some .transient := by
  cases o <;> simp [qualifiesForResend, category?]

theorem Agrees.of_classified (classified : a.Classified o) : o.Agrees a := by
  have category := @classified.category?_eq_some_iff
  have resent : o.qualifiesForResend = a.qualifiesForResend := by
    rw [Attempt.qualifiesForResend_eq, Bool.eq_iff_iff, qualifiesForResend_iff, category]
    rfl
  refine ⟨classified.eq_succeeded_iff, fun failed => ?_, fun _ => category, resent, ?_,
    classified.eq_createdBefore_iff, classified.eq_missingInPlanner_iff, ?_, ?_, ?_⟩
  · refine ⟨_, Attempt.applies_iff.2 ⟨Attempt.isFailed_iff.2 failed, rfl⟩, fun c applies => ?_⟩
    exact (Attempt.applies_iff.1 applies).2.symm
  · rw [← resent, qualifiesForResend_iff]
  · rintro (before | missing)
    · rw [classified.eq_createdBefore_iff.2 before]
      rfl
    · rw [classified.eq_missingInPlanner_iff.2 missing]
      rfl
  · intro code carried
    rcases classified.code?_eq with same | ⟨left_out, -⟩
    · rw [← same, carried]
    · rw [left_out] at carried
      cases carried
  · intro not_succeeded not_before not_missing
    rcases classified.code?_eq with same | ⟨-, special⟩
    · exact same
    · exact absurd special (by simp [not_succeeded, not_before, not_missing])

/-- What agrees with the predicates is what the attempt is classified to. -/
theorem Agrees.classified (agrees : o.Agrees a) : a.Classified o := by
  have plain (failed : a.isFailed = true) (other : o ≠ .createdBefore)
      (other' : o ≠ .missingInPlanner) : a.IsPlain := by
    refine ⟨failed, ?_, ?_⟩
    · exact Bool.eq_false_iff.2 (mt agrees.createdBefore.2 other)
    · exact Bool.eq_false_iff.2 (mt agrees.missingInPlanner.2 other')
  have coded {code : Int32} (kind : CodeKind) (category : o.category? = some kind.category)
      (carried : o.code? = some code)
      (same : CodeKind.ofCode? code = some kind → o = kind.outcome code) : a.Classified o := by
    obtain ⟨failed, category⟩ := Attempt.applies_iff.1 ((agrees.category?_eq _).1 category)
    have carries : a.errorCode = some code := agrees.code code carried
    have meaning : CodeKind.ofCode? code = some kind := by
      simpa [carries] using CodeKind.ofCode_eq_category_iff.1 category
    obtain rfl := same meaning
    refine .coded (plain failed ?_ ?_) carries meaning <;> cases kind <;> exact nofun
  cases o with
  | succeeded => exact .succeeded (agrees.succeeded.1 rfl)
  | createdBefore => exact .createdBefore (agrees.createdBefore.1 rfl)
  | missingInPlanner => exact .missingInPlanner (agrees.missingInPlanner.1 rfl)
  | plannerOriginated code =>
    refine coded .plannerOriginated rfl rfl fun meaning => ?_
    rw [CodeKind.eq_plannerOriginatedCode meaning]
    rfl
  | fatal code => exact coded .fatal rfl rfl fun _ => rfl
  | transient code => exact coded .transient rfl rfl fun _ => rfl
  | unclassified code =>
    obtain ⟨failed, category⟩ := Attempt.applies_iff.1 ((agrees.category?_eq .unclassified).1 rfl)
    obtain rfl : code = a.errorCode := agrees.coded nofun nofun nofun
    exact .unclassified (plain failed nofun nofun) (CodeKind.ofCode_eq_unclassified_iff.1 category)

end Outcome

namespace Attempt

/-- An attempt can be classified exactly if its answer and the time of its answer have been recorded.
It is then classified to the one outcome that agrees with the predicates on it. An attempt that is
not recorded as failed satisfies none of them. -/
theorem verdicts_agree (a : Attempt) :
    ((∃ o, a.outcome = .ok o) ↔ a.syncedAt.isSome = true ∧ a.success.isSome = true) ∧
    (∀ o : Outcome, a.outcome = .ok o ↔
      (a.syncedAt.isSome = true ∧ a.success.isSome = true) ∧ o.Agrees a) ∧
    (a.success ≠ some false → (∀ c : Category, ¬ c.Applies a) ∧ a.isFatal = false ∧
      a.isPlannerOriginated = false ∧ a.isTransient = false ∧ a.isCreatedBefore = false ∧
      a.isMissingInPlanner = false ∧ a.qualifiesForResend = false) := by
  refine ⟨⟨?_, ?_⟩, fun o => ⟨fun ok => ?_, ?_⟩, fun unfailed => ?_⟩
  · rintro ⟨o, ok⟩
    exact isSome_of_outcome ok
  · rintro ⟨synced, answered⟩
    obtain ⟨o, classified⟩ := exists_classified answered
    exact ⟨o, classified.outcome_eq synced⟩
  · exact ⟨isSome_of_outcome ok, .of_classified (outcome_eq_ok_iff.1 ok).2⟩
  · rintro ⟨⟨synced, -⟩, agrees⟩
    exact agrees.classified.outcome_eq synced
  · have failed : ¬ a.isFailed = true := mt isFailed_iff.1 unfailed
    have meaningless (kind : CodeKind) : a.failedWith kind = false :=
      Bool.eq_false_iff.2 (mt failedWith_iff.1 (mt And.left failed))
    refine ⟨fun c applies => failed (applies_iff.1 applies).1, meaningless _, meaningless _,
      meaningless _, ?_, ?_, ?_⟩
    · exact Bool.eq_false_iff.2 fun before => failed (isCreatedBefore_iff.1 before).2.1
    · exact Bool.eq_false_iff.2 fun missing => failed (isMissingInPlanner_iff.1 missing).2.1
    · rw [qualifiesForResend_eq]
      exact meaningless _

/-- An attempt that was answered with a failure. -/
def refused (op : Operation) (code : Option Int32) : Attempt :=
  let created := Simulation.World.atSecond 1000
  (Attempt.pending (.ofNat 11) (.ofNat 1) op ⟨created, created⟩ created).complete
    (.failed (Simulation.World.atSecond 1500) code none)

/-- A create that was refused because its item exists is a special case, whose category is that of its
code; an update that was overtaken by an edit in the Planner is no such case, a delete that met a
passing failure is sent again, and a failure without a code is in no other category. Before they are
answered, no predicate holds of them. -/
theorem verdicts_agree_refused :
    Outcome.createdBefore.Agrees (refused .create (some itemExistsCode)) ∧
    Category.fatal.Applies (refused .create (some itemExistsCode)) ∧
    (Outcome.plannerOriginated 13).Agrees (refused .update (some 13)) ∧
    Category.plannerOriginated.Applies (refused .update (some 13)) ∧
    (Outcome.transient 15).Agrees (refused .delete (some 15)) ∧
    (refused .delete (some 15)).qualifiesForResend = true ∧
    (Outcome.unclassified none).Agrees (refused .delete none) ∧
    { refused .create (some 15) with success := none }.success ≠ some false ∧
    ∀ c : Category, ¬ c.Applies { refused .create (some 15) with success := none } := by
  obtain ⟨-, before⟩ := ((verdicts_agree (refused .create (some itemExistsCode))).2.1 _).1 rfl
  obtain ⟨-, overtaken⟩ :=
    ((verdicts_agree (refused .update (some 13))).2.1 (.plannerOriginated 13)).1 rfl
  obtain ⟨-, passing⟩ := ((verdicts_agree (refused .delete (some 15))).2.1 (.transient 15)).1 rfl
  obtain ⟨-, unknown⟩ := ((verdicts_agree (refused .delete none)).2.1 (.unclassified none)).1 rfl
  have unanswered : { refused .create (some 15) with success := none }.success ≠ some false := nofun
  exact ⟨before, (before.category?_eq .fatal).1 rfl, overtaken,
    (overtaken.category?_eq .plannerOriginated).1 rfl, passing, passing.transient.2 rfl, unknown,
    unanswered, ((verdicts_agree _).2.2 unanswered).1⟩

end Attempt
end CalendarSync
