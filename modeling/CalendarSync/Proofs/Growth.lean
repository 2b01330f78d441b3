import CalendarSync.Proofs.History
import CalendarSync.Proofs.Once

/-!
# Tables that grow

Where every outcome is recorded for an attempt that waits, rows stay in their places with what they
propose, and a row with an outcome does not change any more. This holds of every history in which
identifiers are new, whatever the Planner answers and whatever requests to the storage fail.
-/

namespace CalendarSync
set_option autoImplicit false
open Program Simulation

variable {s after : Store} {t : List Moment} {todo : List Attempt} {a : Attempt} {id : Uuid}
  {c : Completion}

/-! ## Tables that grow -/

namespace Attempt
variable {rows rows' rows'' : List Attempt}

/-- What an outcome leaves as it is. -/
def proposal (a : Attempt) : Uuid × Uuid × Operation × Window × Timestamp × Bool :=
  (a.id, a.event, a.operation, a.window, a.createdAt, a.conflictNotified)

@[simp] theorem proposal_complete (a : Attempt) (c : Completion) :
    (a.complete c).proposal = a.proposal := rfl

/-- Old rows stay in their places with what they propose, and only those that wait change. -/
def Grows (rows rows' : List Attempt) : Prop :=
  ∀ (i : Nat) (a : Attempt), rows[i]? = some a →
    ∃ b, rows'[i]? = some b ∧ b.proposal = a.proposal ∧ (a.isPending = false → b = a)

theorem Grows.refl (rows : List Attempt) : Grows rows rows :=
  fun _ a here => ⟨a, here, rfl, fun _ => rfl⟩

theorem Grows.trans (first : Grows rows rows') (second : Grows rows' rows'') :
    Grows rows rows'' := by
  intro i a here
  obtain ⟨b, there, same, kept⟩ := first i a here
  obtain ⟨c, last, same', kept'⟩ := second i b there
  refine ⟨c, last, same'.trans same, fun closed => ?_⟩
  obtain rfl := kept closed
  exact kept' closed

theorem grows_append (rows new : List Attempt) : Grows rows (rows ++ new) := by
  intro i a here
  have lt : i < rows.length := (List.getElem?_eq_some_iff.1 here).1
  exact ⟨a, by rwa [List.getElem?_append_left lt], rfl, fun _ => rfl⟩

/-- A row that waits may get its outcome. -/
theorem grows_complete {before rest : List Attempt} {row : Attempt} (c : Completion)
    (pending : row.isPending = true) :
    Grows (before ++ row :: rest) (before ++ row.complete c :: rest) := by
  intro i a here
  rcases Nat.lt_trichotomy i before.length with lt | rfl | gt
  · rw [List.getElem?_append_left lt] at here ⊢
    exact ⟨a, here, rfl, fun _ => rfl⟩
  · obtain rfl : row = a := by simpa using here
    exact ⟨row.complete c, by simp, rfl, fun closed => by simp [pending] at closed⟩
  · obtain ⟨k, rfl⟩ := Nat.exists_eq_add_of_lt gt
    have behind : before.length + k + 1 - before.length = k + 1 := by omega
    rw [List.getElem?_append_right (by omega), behind] at here ⊢
    exact ⟨a, here, rfl, fun _ => rfl⟩

end Attempt

/-! ## Rows that wait -/

namespace Simulation.Store

/-- The first attempt with an identifier. -/
def attempt? (s : Store) (id : Uuid) : Option Attempt :=
  s.attempts.find? fun a => a.id = id

/-- An outcome for the identifier would be that of an attempt that waits. -/
def Awaits (s : Store) (id : Uuid) : Prop :=
  ∃ a, s.attempt? id = some a ∧ a.isPending = true

/-- The first attempt with the identifier has its outcome. -/
def Holds (s : Store) (id : Uuid) : Prop :=
  ∃ a, s.attempt? id = some a ∧ a.isPending = false

theorem Holds.not_awaits (holds : s.Holds id) : ¬ s.Awaits id := by
  rintro ⟨a, found, pending⟩
  obtain ⟨b, found', closed⟩ := holds
  rw [found] at found'
  rw [← Option.some.inj found', pending] at closed
  cases closed

theorem awaits_of_mem (distinct : (s.attempts.map (·.id)).Nodup) (mem : a ∈ s.attempts)
    (pending : a.isPending = true) : s.Awaits a.id := by
  cases found : s.attempt? a.id with
  | none => exact absurd (by simp) (List.find?_eq_none.1 found a mem)
  | some b =>
    have same : b.id = a.id := by simpa using List.find?_some found
    obtain rfl := Attempt.eq_of_id_eq distinct (List.mem_of_find?_eq_some found) mem same
    exact ⟨b, found, pending⟩

/-- An outcome goes to the first attempt with the identifier, which stays where it is. -/
theorem attempts_of_completeAttempt (wrote : s.completeAttempt id c = .ok after) :
    ∃ before row rest, s.attempts = before ++ row :: rest ∧ (∀ b ∈ before, b.id ≠ id) ∧
      row.id = id ∧ after.attempts = before ++ row.complete c :: rest := by
  unfold completeAttempt at wrote
  split at wrote
  · rename_i rows changed
    obtain rfl := Except.ok.inj wrote
    obtain ⟨before, row, rest, split, apart, same, rfl⟩ := changeFirst?_eq_some_iff.1 changed
    exact ⟨before, row, rest, split, by simpa using apart, by simpa using same, rfl⟩
  · cases wrote

end Simulation.Store

namespace Moment
variable {m : Moment}

/-- The first attempt with an identifier stays as it is unless it gets an outcome. -/
theorem Leads.attempt? (leads : m.Leads after) (other : ∀ c, m.recorded? ≠ some (id, c))
    (found : m.store.attempt? id = some a) : after.attempt? id = some a := by
  cases leads with
  | kept same leaves => rwa [Store.attempt?, same]
  | added rows added unrecorded =>
    rw [Store.attempt?, rows, List.find?_append, ← Store.attempt?, found, Option.some_or]
  | @recorded id' c wrote recorded =>
    obtain ⟨before, row, rest, split, -, same, rows⟩ := Store.attempts_of_completeAttempt wrote
    have ne : id' ≠ id := fun same => other c (same ▸ recorded)
    have here : ¬ row.id = id := same ▸ ne
    rw [Store.attempt?, split, List.find?_append] at found
    rw [Store.attempt?, rows, List.find?_append]
    simpa [here] using found

/-- An outcome is seen at once. -/
theorem Leads.holds (leads : m.Leads after) (recorded : m.recorded? = some (id, c)) :
    after.Holds id := by
  cases leads with
  | kept same leaves => rw [leaves.1] at recorded; cases recorded
  | added rows added unrecorded => rw [unrecorded] at recorded; cases recorded
  | recorded wrote recorded' =>
    obtain ⟨rfl, rfl⟩ := Prod.mk.inj (Option.some.inj (recorded.symm.trans recorded'))
    obtain ⟨before, row, rest, -, apart, same, rows⟩ := Store.attempts_of_completeAttempt wrote
    refine ⟨row.complete c, ?_, rfl⟩
    have none : before.find? (fun a => decide (a.id = id)) = none := by
      simpa [List.find?_eq_none] using apart
    rw [Store.attempt?, rows, List.find?_append, none, Option.none_or]
    simp [same]

/-- An outcome is recorded for an attempt that waits, and a new attempt has none. -/
structure Due (m : Moment) : Prop where
  recorded : ∀ id c, m.recorded? = some (id, c) → m.store.Awaits id
  added : ∀ a, m.added? = some a → a.Fresh

/-- What has an outcome keeps it. -/
theorem Due.holds (due : m.Due) (leads : m.Leads after) (holds : m.store.Holds id) :
    after.Holds id := by
  obtain ⟨a, found, closed⟩ := holds
  refine ⟨a, leads.attempt? (fun c recorded => ?_) found, closed⟩
  exact Store.Holds.not_awaits ⟨a, found, closed⟩ (due.recorded id c recorded)

/-- An outcome goes to a row that waits. -/
theorem Due.attempts_recorded (due : m.Due) (recorded : m.recorded? = some (id, c))
    (wrote : m.store.completeAttempt id c = .ok after) :
    ∃ before row rest, m.store.attempts = before ++ row :: rest ∧ row.id = id ∧
      row.isPending = true ∧ after.attempts = before ++ row.complete c :: rest := by
  obtain ⟨before, row, rest, split, apart, same, rows⟩ := Store.attempts_of_completeAttempt wrote
  obtain ⟨a, found, pending⟩ := due.recorded id c recorded
  have none : before.find? (fun a => decide (a.id = id)) = none := by
    simpa [List.find?_eq_none] using apart
  obtain rfl : row = a := by
    rw [Store.attempt?, split, List.find?_append, none, Option.none_or] at found
    simpa [same] using found
  exact ⟨before, row, rest, split, same, pending, rows⟩

theorem Due.grows (due : m.Due) (leads : m.Leads after) :
    Attempt.Grows m.store.attempts after.attempts := by
  cases leads with
  | kept same leaves =>
    rw [same]
    exact .refl _
  | added rows added unrecorded =>
    rw [rows]
    exact Attempt.grows_append _ _
  | @recorded id c wrote recorded =>
    obtain ⟨before, row, rest, split, -, pending, rows⟩ := due.attempts_recorded recorded wrote
    rw [split, rows]
    exact Attempt.grows_complete c pending

end Moment

namespace Program
variable {α : Type} {p : Program α} {value : α}

/-- Where all attempts that get an outcome wait at first, and none gets a second one, they wait
until then. -/
theorem Runs.due (run : Runs p s t value after) (once : (closings t).Nodup)
    (awaits : ∀ id ∈ closings t, s.Awaits id)
    (added : ∀ m ∈ t, ∀ a, m.added? = some a → a.Fresh) : ∀ m ∈ t, m.Due := by
  induction run with
  | done value s => simp
  | @ask r next s middle after answer t value answered rest ih =>
    rw [List.forall_mem_cons] at added ⊢
    rw [closings_cons] at once awaits
    rw [List.forall_mem_append] at awaits
    obtain ⟨-, once', apart⟩ := List.nodup_append.1 once
    refine ⟨⟨fun id c recorded => awaits.1 id ?_, added.1⟩, ih once' (fun id mem => ?_) added.2⟩
    · exact mem_closings.2 ⟨_, List.mem_singleton_self _, c, recorded⟩
    · obtain ⟨a, found, pending⟩ := awaits.2 id mem
      refine ⟨a, (Moment.leads_of_answers answered).attempt? (fun c recorded => ?_) found, pending⟩
      exact apart id (mem_closings.2 ⟨_, List.mem_singleton_self _, c, recorded⟩) id mem rfl

/-- The run of a program that notes attempts which wait. -/
theorem Runs.due_of_noted (run : Runs p s t value after) (noted : Noted todo t)
    (distinct : (s.attempts.map (·.id)).Nodup) (once : (todo.map (·.id)).Nodup)
    (waits : ∀ a ∈ todo, a ∈ s.attempts ∧ a.isPending = true) :
    (closings t).Nodup ∧ (∀ id ∈ closings t, s.Awaits id) ∧ ∀ m ∈ t, m.Due := by
  have awaits : ∀ id ∈ closings t, s.Awaits id := by
    intro id closing
    obtain ⟨a, listed, rfl⟩ := List.mem_map.1 (noted.closings.subset closing)
    exact Store.awaits_of_mem distinct (waits a listed).1 (waits a listed).2
  have nodup := once.sublist noted.closings
  exact ⟨nodup, awaits, run.due nodup awaits noted.added⟩

/-- What has an outcome, before the run or by it, has it after the run. -/
theorem Runs.holds (run : Runs p s t value after) (due : ∀ m ∈ t, m.Due)
    (known : s.Holds id ∨ id ∈ closings t) : after.Holds id := by
  induction run with
  | done value s => exact known.resolve_right (by simp [closings])
  | @ask r next s middle after answer t value answered rest ih =>
    rw [List.forall_mem_cons] at due
    have leads := Moment.leads_of_answers answered
    rw [closings_cons, List.mem_append, ← or_assoc] at known
    refine ih due.2 (known.imp_left ?_)
    rintro (holds | closing)
    · exact due.1.holds leads holds
    · obtain ⟨m, mem, c, recorded⟩ := mem_closings.1 closing
      obtain rfl := List.mem_singleton.1 mem
      exact leads.holds recorded

/-- Tables grow from each moment of a run to every later one. -/
theorem Runs.grows (run : Runs p s t value after) (due : ∀ m ∈ t, m.Due) :
    (s :: (t.map (·.store) ++ [after])).Pairwise fun s s' =>
      Attempt.Grows s.attempts s'.attempts := by
  induction run with
  | done value s => simpa using Attempt.Grows.refl s.attempts
  | @ask r next s middle after answer t value answered rest ih =>
    rw [List.forall_mem_cons] at due
    obtain ⟨later, pairwise⟩ := List.pairwise_cons.1 (ih due.2)
    have here : Attempt.Grows s.attempts middle.attempts :=
      due.1.grows (Moment.leads_of_answers answered)
    have onward : ∀ s' ∈ t.map (·.store) ++ [after], Attempt.Grows s.attempts s'.attempts :=
      fun s' mem => here.trans (later s' mem)
    refine .cons (List.forall_mem_cons.2 ⟨.refl _, onward⟩) (.cons onward pairwise)

end Program

/-! ## Outcomes -/

namespace Attempt

/-- The attempt has a time of its answer exactly if it has an answer. -/
def Balanced (a : Attempt) : Prop :=
  a.syncedAt.isSome = a.success.isSome

instance (a : Attempt) : Decidable a.Balanced :=
  inferInstanceAs (Decidable (_ = _))

theorem balanced_complete (a : Attempt) (c : Completion) : (a.complete c).Balanced := rfl

theorem Fresh.balanced (fresh : a.Fresh) : a.Balanced := by
  rw [fresh]
  rfl

/-- Such an attempt can be classified exactly if it does not wait. -/
theorem Balanced.outcome_iff (balanced : a.Balanced) :
    (∃ o, a.outcome = .ok o) ↔ a.isPending = false := by
  cases synced : a.syncedAt with
  | none =>
    have unanswered : a.success = none := by simpa [Balanced, synced] using balanced.symm
    simp [outcome, isPending, synced, unanswered]
  | some instant =>
    obtain ⟨answer, answered⟩ : ∃ answer, a.success = some answer :=
      Option.isSome_iff_exists.1 (balanced.symm.trans (by rw [synced]; rfl))
    have closed : a.complete ⟨instant, answer, a.errorCode, a.call⟩ = a := by
      simp [complete, ← synced, ← answered]
    refine iff_of_true ?_ (by simp [isPending, synced])
    rw [← closed]
    exact exists_outcome_complete a _

end Attempt

/-- Whoever records an outcome or adds an attempt keeps attempts balanced. -/
theorem Moment.Due.balanced {m : Moment} (due : m.Due) (leads : m.Leads after)
    (balanced : ∀ a ∈ m.store.attempts, a.Balanced) : ∀ a ∈ after.attempts, a.Balanced := by
  cases leads with
  | kept same leaves => rwa [same]
  | @added a rows added unrecorded =>
    rw [rows]
    exact List.forall_mem_append.2
      ⟨balanced, List.forall_mem_singleton.2 (due.added a added).balanced⟩
  | @recorded id c wrote recorded =>
    obtain ⟨before, row, rest, split, -, -, rows⟩ := Store.attempts_of_completeAttempt wrote
    rw [split, List.forall_mem_append, List.forall_mem_cons] at balanced
    rw [rows, List.forall_mem_append, List.forall_mem_cons]
    exact ⟨balanced.1, row.balanced_complete c, balanced.2.2⟩

namespace Program
variable {α : Type} {p : Program α} {value : α}

theorem Runs.balanced (run : Runs p s t value after) (due : ∀ m ∈ t, m.Due)
    (balanced : ∀ a ∈ s.attempts, a.Balanced) :
    ∀ s' ∈ t.map (·.store) ++ [after], ∀ a ∈ s'.attempts, a.Balanced := by
  induction run with
  | done value s => simpa using balanced
  | @ask r next s middle after answer t value answered rest ih =>
    rw [List.forall_mem_cons] at due
    exact List.forall_mem_cons.2 ⟨balanced, ih due.2
      (due.1.balanced (Moment.leads_of_answers answered) balanced)⟩

/-- Identifiers stay in their places, and those of new attempts follow. -/
theorem Runs.ids (run : Runs p s t value after) :
    after.attempts.map (·.id) = s.attempts.map (·.id) ++ addings t := by
  induction run with
  | done value s => simp [addings]
  | @ask r next s middle after answer t value answered rest ih =>
    rw [ih, addings_cons, ← List.append_assoc]
    congr 1
    cases Moment.leads_of_answers answered with
    | kept same leaves =>
      have same : middle.attempts = s.attempts := same
      simp [same, addings, leaves.2]
    | added rows added unrecorded =>
      have rows : middle.attempts = s.attempts ++ [_] := rows
      simp [rows, addings, added]
    | @recorded id c wrote recorded =>
      obtain ⟨before, row, rest, split, -, -, rows⟩ := Store.attempts_of_completeAttempt wrote
      have split : s.attempts = before ++ row :: rest := split
      have unadded : Moment.added? ⟨s, r, answer⟩ = none := by
        cases r with
        | completeAttempt id c => rfl
        | insertAttempt a => cases answer <;> cases recorded
        | _ => rfl
      simp [split, rows, addings, unadded]

end Program

/-! ## Histories -/

/-- What an operation may give an outcome waits in the tables. -/
theorem Command.noted {command : Command} {result : Except DomainError command.Result}
    (distinct : (s.attempts.map (·.id)).Nodup)
    (run : Runs command.program s t result after) :
    ∃ todo, Noted todo t ∧ (todo.map (·.id)).Nodup ∧
      ∀ a ∈ todo, a ∈ s.attempts ∧ a.isPending = true := by
  cases command with
  | propose event seen =>
    exact ⟨[], Queue.notes_proposeIfStale.noted run, .nil, by simp⟩
  | delete event =>
    refine ⟨_, Queue.noted_delete run, Attempt.nodup_filter (Store.nodup_history distinct event) _,
      fun a mem => ?_⟩
    obtain ⟨here, -, pending⟩ := Store.mem_waiting_history.1 mem
    exact ⟨here, pending⟩
  | cycle policy maxCreates department =>
    have under : Cycle.Under True s (Cycle.toAnswer (s.pending department)
        (Batch.build (s.pending department) maxCreates)
        (Batch.build (s.pending department) maxCreates).groups) s :=
      Cycle.under_toAnswer distinct List.filter_sublist
    exact ⟨_, Cycle.noted_run run, under.once, under.waits⟩

/-- The tables from the first one on. -/
def storesOf (s₀ : Store) (t : List Moment) (s : Store) : List Store :=
  s₀ :: (t.map (·.store) ++ [s])

theorem storesOf_append (s₀ : Store) (t t' : List Moment) (s : Store) :
    storesOf s₀ (t ++ t') s = (s₀ :: t.map (·.store)) ++ (t'.map (·.store) ++ [s]) := by
  simp [storesOf]

/-- What is known of a history in which all identifiers are new. -/
structure Kept (s₀ : Store) (t : List Moment) (s : Store) : Prop where
  ids : s.attempts.map (·.id) = s₀.attempts.map (·.id) ++ addings t
  named : (addings t).Sublist (issued t)
  due : ∀ m ∈ t, m.Due
  grows : (storesOf s₀ t s).Pairwise fun s s' => Attempt.Grows s.attempts s'.attempts
  once : (closings t).Nodup
  holds : ∀ id ∈ closings t, s.Holds id
  balanced : ∀ s' ∈ storesOf s₀ t s, ∀ a ∈ s'.attempts, a.Balanced

theorem Kept.start (balanced : ∀ a ∈ s.attempts, a.Balanced) : Kept s [] s := by
  refine ⟨by simp [addings], .slnil, by simp, ?_, .nil, by simp [closings], ?_⟩
  · simpa [storesOf] using Attempt.Grows.refl s.attempts
  · simpa [storesOf] using balanced

/-- Where the tables grow up to one and from it on, they grow all the way. -/
theorem pairwise_grows {before later : List Store} {s : Store}
    (first : (before ++ [s]).Pairwise fun s s' => Attempt.Grows s.attempts s'.attempts)
    (second : (s :: later).Pairwise fun s s' => Attempt.Grows s.attempts s'.attempts) :
    (before ++ later).Pairwise fun s s' => Attempt.Grows s.attempts s'.attempts := by
  obtain ⟨early, -, upTo⟩ := List.pairwise_append.1 first
  obtain ⟨onward, late⟩ := List.pairwise_cons.1 second
  refine List.pairwise_append.2 ⟨early, late, fun x hx y hy => ?_⟩
  exact (upTo x hx s (List.mem_singleton_self s)).trans (onward y hy)

/-- One more operation. -/
theorem Kept.next {s₀ : Store} {past : List Moment} {command : Command}
    {result : Except DomainError command.Result} (kept : Kept s₀ past s)
    (fresh : (s₀.attempts.map (·.id) ++ issued (past ++ t)).Nodup)
    (run : Runs command.program s t result after) : Kept s₀ (past ++ t) after := by
  have distinct : (s.attempts.map (·.id)).Nodup := by
    rw [issued_append] at fresh
    rw [kept.ids]
    exact fresh.sublist ((List.Sublist.refl _).append
      (kept.named.trans (List.sublist_append_left _ _)))
  obtain ⟨todo, noted, once, waits⟩ := command.noted distinct run
  obtain ⟨nodup, awaits, due⟩ := run.due_of_noted noted distinct once waits
  refine ⟨?_, ?_, List.forall_mem_append.2 ⟨kept.due, due⟩, ?_, ?_, ?_, ?_⟩
  · rw [run.ids, kept.ids, addings_append, List.append_assoc]
  · rw [addings_append, issued_append]
    exact kept.named.append noted.named
  · have upTo : ((s₀ :: past.map (·.store)) ++ [s]).Pairwise fun s s' =>
        Attempt.Grows s.attempts s'.attempts := kept.grows
    rw [storesOf_append]
    exact pairwise_grows upTo (run.grows due)
  · rw [closings_append]
    refine List.nodup_append.2 ⟨kept.once, nodup, ?_⟩
    rintro id closed _ closing rfl
    exact (kept.holds id closed).not_awaits (awaits id closing)
  · intro id mem
    rw [closings_append, List.mem_append] at mem
    exact run.holds due (mem.imp_left (kept.holds id))
  · have upTo : ∀ s' ∈ (s₀ :: past.map (·.store)) ++ [s], ∀ a ∈ s'.attempts, a.Balanced :=
      kept.balanced
    rw [List.forall_mem_append, List.forall_mem_singleton] at upTo
    rw [storesOf_append]
    exact List.forall_mem_append.2 ⟨upTo.1, run.balanced due upTo.2⟩

theorem kept_history {s₀ : Store} {episodes : List Episode} (history : History s₀ episodes s)
    (balanced : ∀ a ∈ s₀.attempts, a.Balanced)
    (fresh : (s₀.attempts.map (·.id) ++ issued (momentsOf episodes)).Nodup) :
    Kept s₀ (momentsOf episodes) s := by
  induction history with
  | start => exact .start balanced
  | @next episodes s after command t result past run ih =>
    rw [momentsOf_append, momentsOf_singleton] at fresh ⊢
    exact (ih (nodup_issued_left fresh)).next fresh run

/-- Attempts are kept for good. From balanced attempts and new identifiers on, no row goes away or
changes what it proposes, each attempt gets at most one outcome, and it does so while it waits. An
attempt can be classified exactly when it does not wait, so that the one a cycle classifies, which
has just got its outcome, always can. -/
theorem growing_history {s₀ : Store} {episodes : List Episode} (history : History s₀ episodes s)
    (balanced : ∀ a ∈ s₀.attempts, a.Balanced)
    (fresh : (s₀.attempts.map (·.id) ++ issued (momentsOf episodes)).Nodup) :
    ((storesOf s₀ (momentsOf episodes) s).Pairwise fun s s' =>
      Attempt.Grows s.attempts s'.attempts) ∧
    (closings (momentsOf episodes)).Nodup ∧
    (∀ s' ∈ storesOf s₀ (momentsOf episodes) s, ∀ a ∈ s'.attempts, a.Balanced ∧
      ((∃ o, a.outcome = .ok o) ↔ a.isPending = false)) ∧
    ∀ m ∈ momentsOf episodes, ∀ id c, m.recorded? = some (id, c) →
      ∃ a ∈ m.store.attempts, a.id = id ∧ a.isPending = true ∧
        ∃ o, (a.complete c).outcome = .ok o := by
  have kept := kept_history history balanced fresh
  refine ⟨kept.grows, kept.once, fun s' mem a here => ?_, fun m mem id c recorded => ?_⟩
  · have even := kept.balanced s' mem a here
    exact ⟨even, even.outcome_iff⟩
  · obtain ⟨a, found, pending⟩ := (kept.due m mem).recorded id c recorded
    exact ⟨a, List.mem_of_find?_eq_some found, by simpa using List.find?_some found, pending,
      a.exists_outcome_complete c⟩

/-- A cycle of the sample, the end of the event that it created, and another cycle. -/
def Simulation.World.aftermath : List Command :=
  let cycle := Command.cycle World.samplePolicy 10 "rooms"
  [cycle, .delete (.ofNat 2), cycle]

/-- The four attempts of the sample keep their places, and six outcomes are recorded. -/
theorem growing_aftermath : ∃ episodes,
    History World.sample.store episodes (World.sample.perform World.aftermath).store ∧
    (closings (momentsOf episodes)).length = 6 ∧ (closings (momentsOf episodes)).Nodup ∧
    Attempt.Grows World.sample.store.attempts
      (World.sample.perform World.aftermath).store.attempts := by
  obtain ⟨episodes, history, moments⟩ :=
    World.exists_history World.aftermath World.sample rfl (by decide +kernel)
  have fresh : (World.sample.store.attempts.map (·.id) ++ issued (momentsOf episodes)).Nodup := by
    rw [moments]
    decide +kernel
  obtain ⟨grows, once, -⟩ := growing_history history (by decide +kernel) fresh
  refine ⟨episodes, history, ?_, once, (List.pairwise_cons.1 grows).1 _ (by simp)⟩
  rw [moments]
  decide +kernel

end CalendarSync
