import CalendarSync.Proofs.Outcome
import CalendarSync.Proofs.Run
import CalendarSync.Proofs.Store
import CalendarSync.Queue

/-!
# What proposing and deleting can do

Runs of the queue's operations, the failures of the storage included. An operation leaves the tables
as they are, or it adds one attempt to them; a delete also flags its event first, and withdraws what
waits if the Planner does not hold the item.
-/

namespace CalendarSync.Queue
set_option autoImplicit false
open Program Simulation

variable {s after : Store} {t : List Moment} {id : Uuid}

/-- A moment that shows these tables and sends nothing. -/
def Still (s : Store) (m : Moment) : Prop :=
  m.store = s ∧ m.sent = []

/-- Reading an event with its history. -/
theorem runs_load {result : Except DomainError Event} (run : Runs (load id) s t result after) :
    after = s ∧ (∀ m ∈ t, Still s m) ∧ ∀ event, result = .ok event →
      ∃ row, s.event? id = some row ∧ event = { row with attempts := s.history id } := by
  unfold load at run
  obtain ⟨e, rfl, read⟩ | ⟨found, _, _, rest, rfl, read, run₁⟩ := Service.runs_bind_iff.1 run
  · obtain ⟨⟨rfl, -⟩, rfl⟩ := runs_request_iff.1 read
    exact ⟨rfl, by simp [Still, Moment.sent], by simp⟩
  · obtain ⟨⟨rfl, known⟩, rfl⟩ := runs_request_iff.1 read
    have known := known found rfl
    cases found with
    | none =>
      obtain ⟨rfl, rfl, rfl⟩ := Service.runs_throw_iff.1 run₁
      exact ⟨rfl, by simp [Still, Moment.sent], by simp⟩
    | some row =>
      obtain ⟨e, rfl, read⟩ | ⟨history, _, _, rest, rfl, read, run₂⟩ :=
        Service.runs_bind_iff.1 run₁
      · obtain ⟨⟨rfl, -⟩, rfl⟩ := runs_request_iff.1 read
        exact ⟨rfl, by simp [Still, Moment.sent], by simp⟩
      · obtain ⟨⟨rfl, listed⟩, rfl⟩ := runs_request_iff.1 read
        obtain rfl := listed history rfl
        obtain ⟨rfl, rfl, rfl⟩ := Service.runs_pure_iff.1 run₂
        refine ⟨rfl, by simp [Still, Moment.sent], ?_⟩
        rintro event ⟨⟩
        exact ⟨row, known.symm, rfl⟩

/-- Adding a new attempt: it is in the tables, or the storage has failed. -/
theorem runs_add {make : Timestamp → Uuid → Attempt}
    {result : Except DomainError (Option Attempt)}
    (run : Runs (do
      let createdAt ← Service.now
      let fresh ← Service.freshId
      Service.storage (.request (.insertAttempt (make createdAt fresh)))
      return some (make createdAt fresh) : Service (Option Attempt)) s t result after) :
    (∀ m ∈ t, Still s m) ∧
      ((∃ e, result = .error e ∧ after = s ∧ ∃ m ∈ t, ¬ m.Stored) ∨
        ∃ createdAt fresh, ⟨s, .now, createdAt⟩ ∈ t ∧ ⟨s, .freshId, fresh⟩ ∈ t ∧
          result = .ok (some (make createdAt fresh)) ∧
          after = s.insertAttempt (make createdAt fresh)) := by
  obtain ⟨createdAt, _, _, _, rfl, clock, run₁⟩ := Service.runs_lift_bind_iff.1 run
  obtain ⟨rfl, rfl⟩ := runs_request_iff.1 clock
  obtain ⟨fresh, _, _, _, rfl, issue, run₂⟩ := Service.runs_lift_bind_iff.1 run₁
  obtain ⟨rfl, rfl⟩ := runs_request_iff.1 issue
  obtain ⟨e, rfl, insert⟩ | ⟨u, middle, _, _, rfl, insert, run₃⟩ := Service.runs_bind_iff.1 run₂
  · obtain ⟨wrote, rfl⟩ := runs_request_iff.1 insert
    refine ⟨by simp [Still, Moment.sent], .inl ⟨e, rfl, wrote, ?_⟩⟩
    exact ⟨_, List.mem_append_right _ (List.mem_append_right _ List.mem_cons_self), fun h => by cases h⟩
  · obtain ⟨wrote, rfl⟩ := runs_request_iff.1 insert
    obtain rfl := Except.ok.inj wrote
    obtain ⟨rfl, rfl, rfl⟩ := Service.runs_pure_iff.1 run₃
    refine ⟨by simp [Still, Moment.sent], .inr ⟨createdAt, fresh, ?_, ?_, rfl, rfl⟩⟩
    · exact List.mem_append_left _ List.mem_cons_self
    · exact List.mem_append_right _ (List.mem_append_left _ List.mem_cons_self)

/-- What is proposed for an event that stands: a create if there is no attempt yet, and an update
once the latest attempt has been answered. -/
theorem nextOperation?_status {e : Event} {seen : Window} {op : Operation}
    (stale : (e.status seen).nextOperation? = some op) :
    e.isDeleted = false ∧ (op = .create ∧ e.attempts = [] ∨
      op = .update ∧ ∃ latest, Attempt.latest? e.attempts = some latest ∧
        latest.isPending = false) := by
  unfold Event.status at stale
  split at stale
  · cases stale
  · rename_i stands
    refine ⟨by simpa using stands, ?_⟩
    split at stale
    · rename_i none
      obtain rfl := Option.some.inj stale
      exact .inl ⟨rfl, (Attempt.latest?_eq_none_iff _).1 none⟩
    · rename_i latest last
      split at stale
      · cases stale
      · rename_i closed
        split at stale
        · cases stale
        · obtain rfl := Option.some.inj stale
          exact .inr ⟨rfl, latest, last, by simpa using closed⟩

/-- What proposing an attempt for an event can do. -/
inductive Proposing (id : Uuid) (seen : Window) (s : Store) :
    List Moment → Except DomainError (Option Attempt) → Store → Prop where
  | kept {t : List Moment} {result : Except DomainError (Option Attempt)}
      (still : ∀ m ∈ t, Still s m) (none : ∀ a, result ≠ .ok (some a)) :
      Proposing id seen s t result s
  | proposed {t : List Moment} {row : Event} {op : Operation} {createdAt : Timestamp} {fresh : Uuid}
      (still : ∀ m ∈ t, Still s m) (found : s.event? id = some row)
      (stale : (({ row with attempts := s.history id } : Event).status seen).nextOperation? = some op)
      (dated : ⟨s, .now, createdAt⟩ ∈ t) (issued : ⟨s, .freshId, fresh⟩ ∈ t) :
      Proposing id seen s t (.ok (some (.pending fresh id op seen createdAt)))
        (s.insertAttempt (.pending fresh id op seen createdAt))

theorem runs_proposeIfStale {seen : Window} {result : Except DomainError (Option Attempt)}
    (run : Runs (proposeIfStale id seen) s t result after) : Proposing id seen s t result after := by
  unfold proposeIfStale at run
  obtain ⟨e, rfl, loaded⟩ | ⟨event, _, first, rest, rfl, loaded, run₁⟩ :=
    Service.runs_bind_iff.1 run
  · obtain ⟨rfl, still, -⟩ := runs_load loaded
    exact .kept still (by simp)
  · obtain ⟨rfl, still, known⟩ := runs_load loaded
    obtain ⟨row, found, rfl⟩ := known event rfl
    cases stale : (({ row with attempts := _ } : Event).status seen).nextOperation? with
    | none =>
      rw [stale] at run₁
      obtain ⟨rfl, rfl, rfl⟩ := Service.runs_pure_iff.1 run₁
      exact .kept (by simpa using still) (by simp)
    | some op =>
      rw [stale] at run₁
      obtain ⟨still', ⟨e, rfl, rfl, -⟩ | ⟨createdAt, fresh, dated, issued, rfl, rfl⟩⟩ := runs_add run₁
      · exact .kept (List.forall_mem_append.2 ⟨still, still'⟩) (by simp)
      · rw [Store.id_of_event? found]
        exact .proposed (List.forall_mem_append.2 ⟨still, still'⟩) found stale
          (List.mem_append_right _ dated) (List.mem_append_right _ issued)

/-- The event has been flagged as deleted, and nothing else has changed. -/
structure Flags (id : Uuid) (s f : Store) : Prop where
  attempts : f.attempts = s.attempts
  flagged : ∀ event, f.Flagged event ↔ event = id ∨ s.Flagged event

theorem flags_saveEvent {row : Event} (found : s.event? id = some row) (history : List Attempt) :
    Flags id s (s.saveEvent ({ row with attempts := history } : Event).markDeleted) := by
  refine ⟨Store.attempts_saveEvent s _, fun event => ?_⟩
  unfold Store.Flagged
  rw [Store.event?_saveEvent]
  have same : row.id = id := Store.id_of_event? found
  by_cases h : event = id
  · simp [h, same, Event.row, Event.markDeleted]
  · simp [h, same, Event.markDeleted]

theorem isHeld_iff {history : List Attempt} :
    isHeld history = true ↔ ∃ a ∈ history, a.isEffective = true :=
  List.any_eq_true

/-- Nothing to withdraw. -/
theorem runs_withdraw_nil {c : Completion} {result : Except DomainError Unit}
    (run : Runs (withdraw c []) s t result after) : t = [] ∧ after = s := by
  obtain ⟨rfl, -, rfl⟩ := Service.runs_pure_iff.1 run
  exact ⟨rfl, rfl⟩

/-- Withdrawing one attempt. -/
theorem runs_withdraw_singleton {c : Completion} {a : Attempt} {result : Except DomainError Unit}
    (run : Runs (withdraw c [a]) s t result after) :
    ∃ answer, s.Writes (s.completeAttempt a.id c) answer after ∧
      t = [⟨s, .completeAttempt a.id c, answer⟩] := by
  unfold withdraw at run
  obtain ⟨e, rfl, asked⟩ | ⟨u, middle, _, _, rfl, asked, run₁⟩ := Service.runs_bind_iff.1 run
  · obtain ⟨wrote, rfl⟩ := runs_request_iff.1 asked
    exact ⟨.error e, wrote, rfl⟩
  · obtain ⟨wrote, rfl⟩ := runs_request_iff.1 asked
    obtain ⟨rfl, rfl⟩ := runs_withdraw_nil run₁
    exact ⟨.ok u, wrote, rfl⟩

/-- What deleting an event can do. -/
inductive Deleting (id : Uuid) (s : Store) :
    List Moment → Except DomainError (Option Attempt) → Store → Prop where
  | kept {t : List Moment} {result : Except DomainError (Option Attempt)}
      (still : ∀ m ∈ t, Still s m) (none : ∀ a, result ≠ .ok (some a)) : Deleting id s t result s
  | flagged {f : Store} {t t' : List Moment} {result : Except DomainError (Option Attempt)}
      (unflagged : ¬ s.Flagged id) (flags : Flags id s f) (still : ∀ m ∈ t, Still s m)
      (still' : ∀ m ∈ t', Still f m) (none : ∀ a, result ≠ .ok (some a))
      (reason : s.history id = [] ∨ ∃ m ∈ t', ¬ m.Stored) : Deleting id s (t ++ t') result f
  | proposed {f : Store} {t t' : List Moment} {latest : Attempt} {createdAt : Timestamp}
      {fresh : Uuid} (unflagged : ¬ s.Flagged id) (flags : Flags id s f)
      (still : ∀ m ∈ t, Still s m) (still' : ∀ m ∈ t', Still f m)
      (last : Attempt.latest? (s.history id) = some latest) (held : isHeld (s.history id) = true)
      (dated : ⟨f, .now, createdAt⟩ ∈ t') (issued : ⟨f, .freshId, fresh⟩ ∈ t') :
      Deleting id s (t ++ t') (.ok (some (latest.again fresh .delete createdAt)))
        (f.insertAttempt (latest.again fresh .delete createdAt))
  | withdrawn {f after : Store} {t t' t'' : List Moment} {instant : Timestamp}
      {result : Except DomainError Unit} (unflagged : ¬ s.Flagged id) (flags : Flags id s f)
      (still : ∀ m ∈ t, Still s m) (still' : ∀ m ∈ t', Still f m)
      (free : isHeld (s.history id) = false)
      (run : Runs (withdraw (.withdrawn instant) ((s.history id).filter (·.isPending)))
        f t'' result after) : Deleting id s (t ++ (t' ++ t'')) (result.map fun _ => none) after

theorem runs_delete {result : Except DomainError (Option Attempt)}
    (run : Runs (delete id) s t result after) : Deleting id s t result after := by
  unfold delete at run
  obtain ⟨e, rfl, loaded⟩ | ⟨event, s₁, first, rest, rfl, loaded, run₁⟩ :=
    Service.runs_bind_iff.1 run
  · obtain ⟨rfl, still, -⟩ := runs_load loaded
    exact .kept still (by simp)
  obtain ⟨rfl, still, known⟩ := runs_load loaded
  obtain ⟨row, found, rfl⟩ := known event rfl
  by_cases flagged : row.isDeleted = true
  · rw [if_pos flagged] at run₁
    obtain ⟨rfl, rfl, rfl⟩ := Service.runs_pure_iff.1 run₁
    exact .kept (by simpa using still) (by simp)
  rw [if_neg flagged] at run₁
  have unflagged : ¬ s₁.Flagged id := by
    rintro ⟨row', found', deleted⟩
    rw [found] at found'
    exact flagged (Option.some.inj found' ▸ deleted)
  have flags := flags_saveEvent found (s₁.history id)
  obtain ⟨e, rfl, save⟩ | ⟨u, f, saved, rest, rfl, save, run₂⟩ := Service.runs_bind_iff.1 run₁
  · obtain ⟨wrote, rfl⟩ := runs_request_iff.1 save
    obtain rfl : after = s₁ := wrote
    refine .kept (List.forall_mem_append.2 ⟨still, List.forall_mem_singleton.2 ?_⟩) (by simp)
    exact ⟨rfl, rfl⟩
  obtain ⟨wrote, rfl⟩ := runs_request_iff.1 save
  rw [Except.ok.inj wrote] at flags
  have still : ∀ m ∈ first ++ [(⟨s₁, .saveEvent ({ row with attempts := s₁.history id } :
      Event).markDeleted, .ok u⟩ : Moment)], Still s₁ m :=
    List.forall_mem_append.2 ⟨still, List.forall_mem_singleton.2 ⟨rfl, rfl⟩⟩
  rw [← List.append_assoc]
  cases last : Attempt.latest? (s₁.history id) with
  | none =>
    rw [last] at run₂
    obtain ⟨rfl, rfl, rfl⟩ := Service.runs_pure_iff.1 run₂
    exact .flagged unflagged flags still (by simp) (by simp)
      (.inl ((Attempt.latest?_eq_none_iff _).1 last))
  | some latest =>
    rw [last] at run₂
    by_cases held : isHeld (s₁.history id) = true
    · simp only [held, if_true] at run₂
      obtain ⟨still', ⟨e, rfl, rfl, fault⟩ | ⟨createdAt, fresh, dated, issued, rfl, rfl⟩⟩ :=
        runs_add run₂
      · exact .flagged unflagged flags still still' (by simp) (.inr fault)
      · exact .proposed unflagged flags still still' last held dated issued
    · simp only [held] at run₂
      obtain ⟨instant, f', _, _, rfl, clock, run₃⟩ := Service.runs_lift_bind_iff.1 run₂
      obtain ⟨same, rfl⟩ := runs_request_iff.1 clock
      obtain rfl : f' = f := same
      have quiet : ∀ m ∈ [(⟨f', .now, instant⟩ : Moment)], Still f' m :=
        List.forall_mem_singleton.2 ⟨rfl, rfl⟩
      have free : isHeld (s₁.history id) = false := by simpa using held
      obtain ⟨e, rfl, withdraws⟩ | ⟨u, _, _, _, rfl, withdraws, run₄⟩ :=
        Service.runs_bind_iff.1 run₃
      · exact .withdrawn unflagged flags still quiet free withdraws
      · obtain ⟨rfl, rfl, rfl⟩ := Service.runs_pure_iff.1 run₄
        rw [List.append_nil]
        exact .withdrawn unflagged flags still quiet free withdraws

end CalendarSync.Queue
