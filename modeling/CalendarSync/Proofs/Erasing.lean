import CalendarSync.Proofs.Interleaving
import CalendarSync.Queue

/-!
# The ways through a delete

What deleting an event asks for, answer by answer: the event and its history are read, the event is
flagged, and then either a delete is added or what waits is withdrawn. Any request may fail, and then
nothing follows. Nothing is said of the tables, which others may change in between.
-/

namespace CalendarSync.Queue
set_option autoImplicit false
open Program Simulation

variable {t : List Moment} {id : Uuid} {c : Completion} {a : Attempt}

/-- Attempts are closed one after the other, up to the first failure. -/
inductive Withdrawing (c : Completion) :
    List Attempt → List Moment → Except DomainError Unit → Prop where
  | done : Withdrawing c [] [] (.ok ())
  | failed (s : Store) (a : Attempt) (l : List Attempt) (e : DomainError) :
      Withdrawing c (a :: l) [⟨s, .completeAttempt a.id c, .error e⟩] (.error e)
  | closed (s : Store) {a : Attempt} {l : List Attempt} {t : List Moment}
      {result : Except DomainError Unit} (rest : Withdrawing c l t result) :
      Withdrawing c (a :: l) (⟨s, .completeAttempt a.id c, .ok ()⟩ :: t) result

theorem Withdrawing.completes {l : List Attempt} {result : Except DomainError Unit}
    (withdrawing : Withdrawing c l t result) :
    ∀ m ∈ t, ∃ id, m.request = .completeAttempt id c := by
  induction withdrawing with
  | done => simp
  | failed s a l e => simp
  | closed s rest ih => exact List.forall_mem_cons.2 ⟨⟨_, rfl⟩, ih⟩

/-- Only a failure of the storage ends it early. -/
theorem Withdrawing.exists_fault {l : List Attempt} {e : DomainError}
    (withdrawing : Withdrawing c l t (.error e)) : ∃ m ∈ t, ¬ m.Stored := by
  generalize outcome : (.error e : Except DomainError Unit) = result at withdrawing
  induction withdrawing with
  | done => cases outcome
  | failed s a l e => exact ⟨_, List.mem_cons_self, fun h => by cases h⟩
  | closed s rest ih =>
    obtain ⟨m, mem, fault⟩ := ih outcome
    exact ⟨m, List.mem_cons_of_mem _ mem, fault⟩

theorem path_withdraw {l : List Attempt} {result : Except DomainError Unit}
    (path : Path (withdraw c l) t result) : Withdrawing c l t result := by
  induction l generalizing t with
  | nil =>
    obtain ⟨rfl, rfl⟩ := Program.path_pure_iff.1 path
    exact .done
  | cons a l ih =>
    unfold withdraw at path
    obtain ⟨e, rfl, asked⟩ | ⟨u, _, rest, rfl, asked, path₁⟩ := Service.path_bind_iff.1 path
    · obtain ⟨s, rfl⟩ := path_request_iff.1 asked
      exact .failed s a l e
    · obtain ⟨s, rfl⟩ := path_request_iff.1 asked
      exact .closed s (ih path₁)

/-- The event and its history are read. Where the event is not found nothing more is asked. -/
inductive Loading (id : Uuid) : List Moment → Except DomainError Event → Prop where
  | failed {t : List Moment} {e : DomainError} (reads : ∀ m ∈ t, m.request.table? = none)
      (reason : (∃ m ∈ t, ¬ m.Stored) ∨ ∃ s, t = [⟨s, .getEvent id, .ok none⟩]) :
      Loading id t (.error e)
  | loaded (s s' : Store) (row : Event) (history : List Attempt) :
      Loading id [⟨s, .getEvent id, .ok (some row)⟩, ⟨s', .attemptsOf id, .ok history⟩]
        (.ok { row with attempts := history })

theorem path_load {result : Except DomainError Event} (path : Path (load id) t result) :
    Loading id t result := by
  unfold load at path
  obtain ⟨e, rfl, read⟩ | ⟨found, _, rest, rfl, read, path₁⟩ := Service.path_bind_iff.1 path
  · obtain ⟨s, rfl⟩ := path_request_iff.1 read
    refine .failed (by simp [Request.table?]) (.inl ⟨_, List.mem_cons_self, fun stored => ?_⟩)
    cases stored
  obtain ⟨s, rfl⟩ := path_request_iff.1 read
  cases found with
  | none =>
    obtain ⟨rfl, rfl⟩ := Program.path_pure_iff.1 path₁
    exact .failed (by simp [Request.table?]) (.inr ⟨s, rfl⟩)
  | some row =>
    obtain ⟨e, rfl, read⟩ | ⟨history, _, rest, rfl, read, path₂⟩ := Service.path_bind_iff.1 path₁
    · obtain ⟨s', rfl⟩ := path_request_iff.1 read
      refine .failed (by simp [Request.table?])
        (.inl ⟨_, List.mem_append_right _ List.mem_cons_self, fun stored => ?_⟩)
      cases stored
    · obtain ⟨s', rfl⟩ := path_request_iff.1 read
      obtain ⟨rfl, rfl⟩ := Program.path_pure_iff.1 path₂
      exact .loaded s s' row history

/-- What a delete does with an event that has been read. -/
inductive Erasing (event : Event) : List Moment → Except DomainError (Option Attempt) → Prop where
  | gone (deleted : event.isDeleted = true) : Erasing event [] (.ok none)
  | unsaved (stands : event.isDeleted = false) (s : Store) (e : DomainError) :
      Erasing event [⟨s, .saveEvent event.markDeleted, .error e⟩] (.error e)
  | blank (stands : event.isDeleted = false) (s : Store) (empty : event.attempts = []) :
      Erasing event [⟨s, .saveEvent event.markDeleted, .ok ()⟩] (.ok none)
  | queued (stands : event.isDeleted = false) (s s₁ s₂ s₃ : Store) {latest : Attempt}
      (last : Attempt.latest? event.attempts = some latest) (held : isHeld event.attempts = true)
      (createdAt : Timestamp) (fresh : Uuid) (answer : Except DomainError Unit) :
      Erasing event
        [⟨s, .saveEvent event.markDeleted, .ok ()⟩, ⟨s₁, .now, createdAt⟩, ⟨s₂, .freshId, fresh⟩,
          ⟨s₃, .insertAttempt (latest.again fresh .delete createdAt), answer⟩]
        (answer.map fun _ => some (latest.again fresh .delete createdAt))
  | withdrawn (stands : event.isDeleted = false) (s s₁ : Store) {latest : Attempt}
      (last : Attempt.latest? event.attempts = some latest) (free : isHeld event.attempts = false)
      (instant : Timestamp) {t : List Moment} {result : Except DomainError Unit}
      (withdrawing : Withdrawing (.withdrawn instant) (event.attempts.filter (·.isPending)) t
        result) :
      Erasing event
        (⟨s, .saveEvent event.markDeleted, .ok ()⟩ :: ⟨s₁, .now, instant⟩ :: t)
        (result.map fun _ => .none)

theorem Erasing.exists_fault {event : Event} {e : DomainError}
    (erasing : Erasing event t (.error e)) : ∃ m ∈ t, ¬ m.Stored := by
  generalize outcome : (.error e : Except DomainError (Option Attempt)) = result at erasing
  cases erasing with
  | gone deleted => cases outcome
  | unsaved stands s e => exact ⟨_, List.mem_cons_self, fun h => by cases h⟩
  | blank stands s empty => cases outcome
  | queued stands s s₁ s₂ s₃ last held createdAt fresh answer =>
    cases answer with
    | ok u => cases outcome
    | error e => exact ⟨_, List.mem_of_getLast? rfl, fun h => by cases h⟩
  | @withdrawn _ s s₁ _ last free instant _ result withdrawing =>
    cases result with
    | ok u => cases outcome
    | error e =>
      obtain ⟨m, mem, fault⟩ := withdrawing.exists_fault
      exact ⟨m, List.mem_cons_of_mem _ (List.mem_cons_of_mem _ mem), fault⟩

/-- Nothing more is read. -/
theorem Erasing.unread {event : Event} {result : Except DomainError (Option Attempt)}
    (erasing : Erasing event t result) : ∀ m ∈ t, m.request ≠ .attemptsOf id := by
  cases erasing with
  | gone deleted => simp
  | unsaved stands s e => simp
  | blank stands s empty => simp
  | queued stands s s₁ s₂ s₃ last held createdAt fresh answer => simp
  | withdrawn stands s s₁ last free instant withdrawing =>
    simp only [List.forall_mem_cons]
    refine ⟨by simp, by simp, fun m mem => ?_⟩
    obtain ⟨id', same⟩ := withdrawing.completes m mem
    simp [same]

/-- An attempt is added only where the item is held. -/
theorem Erasing.isHeld_of_added {event : Event} {result : Except DomainError (Option Attempt)}
    {m : Moment} (erasing : Erasing event t result) (mem : m ∈ t) (added : m.added? = some a) :
    isHeld event.attempts = true := by
  cases erasing with
  | gone deleted => cases mem
  | unsaved stands s e =>
    obtain rfl := List.mem_singleton.1 mem
    cases added
  | blank stands s empty =>
    obtain rfl := List.mem_singleton.1 mem
    cases added
  | queued stands s s₁ s₂ s₃ last held createdAt fresh answer => exact held
  | withdrawn stands s s₁ last free instant withdrawing =>
    rcases List.mem_cons.1 mem with rfl | mem
    · cases added
    rcases List.mem_cons.1 mem with rfl | mem
    · cases added
    obtain ⟨store, request, answer⟩ := m
    obtain ⟨id', rfl⟩ : ∃ id', request = .completeAttempt id' _ := withdrawing.completes _ mem
    cases added

/-- Where the item is held and the storage does not fail, a delete is added. -/
theorem Erasing.exists_added {event : Event} {result : Except DomainError (Option Attempt)}
    (erasing : Erasing event t result) (stands : event.isDeleted = false)
    (held : isHeld event.attempts = true) (stored : ∀ m ∈ t, m.Stored) :
    ∃ latest fresh createdAt, Attempt.latest? event.attempts = some latest ∧
      ∃ m ∈ t, m.added? = some (latest.again fresh .delete createdAt) := by
  cases erasing with
  | gone deleted =>
    rw [stands] at deleted
    cases deleted
  | unsaved _ s e => exact absurd (stored _ List.mem_cons_self) (fun h => by cases h)
  | blank _ s empty =>
    rw [empty] at held
    cases held
  | @queued _ s s₁ s₂ s₃ latest last _ createdAt fresh answer =>
    cases answer with
    | error e => exact absurd (stored _ (List.mem_of_getLast? rfl)) (fun h => by cases h)
    | ok u => exact ⟨latest, fresh, createdAt, last, _, List.mem_of_getLast? rfl, rfl⟩
  | withdrawn _ s s₁ last free instant withdrawing =>
    rw [held] at free
    cases free

/-- Adding a new attempt. -/
theorem path_add {make : Timestamp → Uuid → Attempt}
    {result : Except DomainError (Option Attempt)}
    (path : Path (do
      let createdAt ← Service.now
      let fresh ← Service.freshId
      Service.storage (.request (.insertAttempt (make createdAt fresh)))
      return some (make createdAt fresh) : Service (Option Attempt)) t result) :
    ∃ s₁ createdAt s₂ fresh s₃, ∃ answer : Except DomainError Unit,
      t = [⟨s₁, .now, createdAt⟩, ⟨s₂, .freshId, fresh⟩,
        ⟨s₃, .insertAttempt (make createdAt fresh), answer⟩] ∧
      result = answer.map fun _ => some (make createdAt fresh) := by
  obtain ⟨createdAt, _, _, rfl, clock, path₁⟩ := Service.path_lift_bind_iff.1 path
  obtain ⟨s₁, rfl⟩ := path_request_iff.1 clock
  obtain ⟨fresh, _, _, rfl, issue, path₂⟩ := Service.path_lift_bind_iff.1 path₁
  obtain ⟨s₂, rfl⟩ := path_request_iff.1 issue
  obtain ⟨e, rfl, insert⟩ | ⟨u, _, _, rfl, insert, path₃⟩ := Service.path_bind_iff.1 path₂
  · obtain ⟨s₃, rfl⟩ := path_request_iff.1 insert
    exact ⟨s₁, createdAt, s₂, fresh, s₃, .error e, rfl, rfl⟩
  · obtain ⟨s₃, rfl⟩ := path_request_iff.1 insert
    obtain ⟨rfl, rfl⟩ := Program.path_pure_iff.1 path₃
    exact ⟨s₁, createdAt, s₂, fresh, s₃, .ok u, rfl, rfl⟩

/-- The ways through a delete. -/
inductive Ways (id : Uuid) : List Moment → Except DomainError (Option Attempt) → Prop where
  | unread {t : List Moment} {e : DomainError} (reads : ∀ m ∈ t, m.request.table? = none)
      (reason : (∃ m ∈ t, ¬ m.Stored) ∨ ∃ s, t = [⟨s, .getEvent id, .ok none⟩]) :
      Ways id t (.error e)
  | read (s s' : Store) (row : Event) (history : List Attempt) {t : List Moment}
      {result : Except DomainError (Option Attempt)}
      (erasing : Erasing { row with attempts := history } t result) :
      Ways id
        (⟨s, .getEvent id, .ok (some row)⟩ :: ⟨s', .attemptsOf id, .ok history⟩ :: t) result

theorem path_delete {result : Except DomainError (Option Attempt)}
    (path : Path (delete id) t result) : Ways id t result := by
  unfold delete at path
  obtain ⟨e, rfl, loaded⟩ | ⟨event, _, rest, rfl, loaded, path₁⟩ := Service.path_bind_iff.1 path
  · cases path_load loaded with
    | failed reads reason => exact .unread reads reason
  cases path_load loaded with
  | loaded s s' row history =>
  refine .read s s' row history ?_
  clear loaded path
  generalize ({ row with attempts := history } : Event) = event at path₁ ⊢
  by_cases deleted : event.isDeleted = true
  · rw [if_pos deleted] at path₁
    obtain ⟨rfl, rfl⟩ := Program.path_pure_iff.1 path₁
    exact .gone deleted
  rw [if_neg deleted] at path₁
  have stands : event.isDeleted = false := by simpa using deleted
  obtain ⟨e, rfl, save⟩ | ⟨u, _, _, rfl, save, path₂⟩ := Service.path_bind_iff.1 path₁
  · obtain ⟨s, rfl⟩ := path_request_iff.1 save
    exact .unsaved stands s e
  obtain ⟨s, rfl⟩ := path_request_iff.1 save
  cases last : Attempt.latest? event.attempts with
  | none =>
    rw [last] at path₂
    obtain ⟨rfl, rfl⟩ := Program.path_pure_iff.1 path₂
    exact .blank stands s ((Attempt.latest?_eq_none_iff _).1 last)
  | some latest =>
    rw [last] at path₂
    by_cases held : isHeld event.attempts = true
    · simp only [held, if_true] at path₂
      obtain ⟨s₁, createdAt, s₂, fresh, s₃, answer, rfl, rfl⟩ := path_add path₂
      exact .queued stands s s₁ s₂ s₃ last held createdAt fresh answer
    · simp only [held] at path₂
      have free : isHeld event.attempts = false := by simpa using held
      obtain ⟨instant, _, _, rfl, clock, path₃⟩ := Service.path_lift_bind_iff.1 path₂
      obtain ⟨s₁, rfl⟩ := path_request_iff.1 clock
      obtain ⟨e, rfl, withdraws⟩ | ⟨u, _, _, rfl, withdraws, path₄⟩ :=
        Service.path_bind_iff.1 path₃
      · exact .withdrawn stands s s₁ last free instant (path_withdraw withdraws)
      · obtain ⟨rfl, rfl⟩ := Program.path_pure_iff.1 path₄
        rw [List.append_nil]
        exact .withdrawn stands s s₁ last free instant (path_withdraw withdraws)

end CalendarSync.Queue
