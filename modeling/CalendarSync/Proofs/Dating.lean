import CalendarSync.Cycle
import CalendarSync.Proofs.Writing
import CalendarSync.Queue

/-!
# How attempts are dated

The services date a new attempt by the clock and name it by the source of identifiers. A program that
does so keeps within what it has been told, so that readings which never go back and identifiers
which increase are never behind the attempts in the tables.
-/

namespace CalendarSync
set_option autoImplicit false
open Program Simulation

/-- The attempt that a request adds. -/
def Request.added? : Request → Option Attempt
  | .insertAttempt a => some a
  | _ => none

/-- The program adds attempts only with creation times and identifiers that it has been told, which
may be among these. -/
inductive Dated {α : Type} : List Timestamp → List Uuid → Program α → Prop where
  | done {times : List Timestamp} {ids : List Uuid} (value : α) : Dated times ids (.done value)
  | insert {times : List Timestamp} {ids : List Uuid} {a : Attempt}
      {next : Except DomainError Unit → Program α} (created : a.createdAt ∈ times)
      (issued : a.id ∈ ids) (rest : ∀ answer, Dated times ids (next answer)) :
      Dated times ids (.ask (.insertAttempt a) next)
  | now {times : List Timestamp} {ids : List Uuid} {next : Timestamp → Program α}
      (rest : ∀ instant, Dated (instant :: times) ids (next instant)) :
      Dated times ids (.ask .now next)
  | freshId {times : List Timestamp} {ids : List Uuid} {next : Uuid → Program α}
      (rest : ∀ id, Dated times (id :: ids) (next id)) : Dated times ids (.ask .freshId next)
  | other {times : List Timestamp} {ids : List Uuid} {r : Request} {next : r.Answer → Program α}
      (other : r.added? = none) (rest : ∀ answer, Dated times ids (next answer)) :
      Dated times ids (.ask r next)

namespace Dated
variable {α β : Type} {times times' : List Timestamp} {ids ids' : List Uuid}

theorem mono {p : Program α} (dated : Dated times ids p) (more : times ⊆ times')
    (more' : ids ⊆ ids') : Dated times' ids' p := by
  induction dated generalizing times' ids' with
  | done value => exact .done value
  | insert created issued rest ih =>
    exact .insert (more created) (more' issued) fun answer => ih answer more more'
  | now rest ih => exact .now fun instant => ih instant (List.cons_subset_cons _ more) more'
  | freshId rest ih => exact .freshId fun id => ih id more (List.cons_subset_cons _ more')
  | other other rest ih => exact .other other fun answer => ih answer more more'

theorem bind {p : Program α} {f : α → Program β} (first : Dated times ids p)
    (rest : ∀ value, Dated times ids (f value)) : Dated times ids (p >>= f) := by
  induction first with
  | done value => exact rest value
  | insert created issued _ ih => exact .insert created issued fun answer => ih answer rest
  | now _ ih =>
    exact .now fun instant => ih instant fun value =>
      (rest value).mono (List.subset_cons_self _ _) (List.Subset.refl _)
  | freshId _ ih =>
    exact .freshId fun id => ih id fun value =>
      (rest value).mono (List.Subset.refl _) (List.subset_cons_self _ _)
  | other other _ ih => exact .other other fun answer => ih answer rest

/-- Any request but one for an addition. -/
theorem request {r : Request} (other : r.added? = none) :
    Dated times ids (Program.request r) :=
  .other other fun value => .done value

theorem foldlM {σ : Type} {f : σ → α → Program σ} (each : ∀ value a, Dated times ids (f value a))
    (l : List α) (value : σ) : Dated times ids (l.foldlM f value) := by
  induction l generalizing value with
  | nil => exact .done value
  | cons a l ih =>
    rw [List.foldlM_cons]
    exact (each value a).bind ih

theorem lift {p : Program α} (dated : Dated times ids p) :
    Dated times ids (ExceptT.lift p : Service α) := by
  change Dated times ids (Except.ok <$> p)
  rw [map_eq_pure_bind]
  exact dated.bind fun value => .done _

theorem service_bind {p : Service α} {f : α → Service β} (first : Dated times ids p)
    (rest : ∀ value, Dated times ids (f value)) : Dated times ids (p >>= f : Service β) := by
  apply Dated.bind (p := p) first
  intro value
  cases value with
  | ok value => exact rest value
  | error e => exact .done _

/-- An addition that is dated and named just before it. -/
theorem add {f : Timestamp → Uuid → Attempt}
    (created : ∀ instant id, (f instant id).createdAt = instant)
    (named : ∀ instant id, (f instant id).id = id)
    {next : Timestamp → Uuid → Except DomainError Unit → Program α}
    (rest : ∀ instant id answer, Dated times ids (next instant id answer)) :
    Dated times ids (do
      let instant ← Program.request .now
      let id ← Program.request .freshId
      let answer ← Program.request (.insertAttempt (f instant id))
      next instant id answer) := by
  refine .now fun instant => .freshId fun id => .insert ?_ ?_ fun answer => ?_
  · rw [created]
    exact List.mem_cons_self
  · rw [named]
    exact List.mem_cons_self
  · exact (rest instant id answer).mono (List.subset_cons_self _ _) (List.subset_cons_self _ _)

end Dated

/-! ## The programs of the services -/

section Programs
variable {times : List Timestamp} {ids : List Uuid}

theorem dated_attempt {token : Token} {b : Backoff} {ε α : Type} {isBusy : ε → Bool}
    {call : Program (Except ε α)}
    (dated : Dated times ids call) (made more : Nat) :
    Dated times ids (Retry.attempt (.ofBackoff token b) isBusy call made more) := by
  have asks : Dated times ids (Program.request (.isCancelled token)) := .request rfl
  induction more generalizing made with
  | zero =>
    rw [Retry.attempt]
    apply asks.bind
    intro cancelled
    split
    · exact .done _
    · apply dated.bind
      intro answer
      cases answer <;> exact .done _
  | succ more ih =>
    rw [Retry.attempt]
    apply asks.bind
    intro cancelled
    split
    · exact .done _
    · apply dated.bind
      intro answer
      cases answer with
      | ok value => exact .done _
      | error e =>
        by_cases busy : isBusy e = true
        · simp only [busy, if_true]
          have waits : Dated times ids (Program.request (.pause token b made)) := .request rfl
          apply waits.bind
          intro cut
          split
          · exact .done _
          · exact ih (made + 1)
        · simp only [busy]
          exact .done _

theorem dated_perform {α : Type} {policy : CallPolicy} {label : String}
    {call : Program (Except PlannerError α)} (dated : Dated times ids call) :
    Dated times ids (policy.perform label call) := by
  unfold CallPolicy.perform
  refine Dated.bind ?_ fun answer => ?_
  · unfold Retry.run
    split
    · exact .done _
    · exact dated_attempt dated _ _
  · cases answer <;> exact .done _

theorem dated_sendGroup {policy : CallPolicy} {op : Operation} {group : List Attempt} :
    Dated times ids (Cycle.sendGroup policy op group) := by
  unfold Cycle.sendGroup
  apply Dated.bind (.request rfl)
  intro correlation
  apply Dated.bind (.request rfl)
  intro startedAt
  apply Dated.bind (.request rfl)
  intro id
  apply Dated.bind (.request rfl)
  intro opened
  cases opened with
  | error e => exact .done _
  | ok u =>
    apply (dated_perform (.request rfl)).bind
    intro answer
    apply Dated.bind (.request rfl)
    intro endedAt
    cases answer with
    | ok results => exact Dated.bind (.request rfl) fun closed => .done _
    | error e => exact Dated.bind (.request rfl) fun closed => .done _

theorem dated_count {a : Attempt} {report : CycleReport} :
    Dated times ids (Cycle.count a report) := by
  unfold Cycle.count
  cases a.outcome with
  | error e => exact .done _
  | ok outcome =>
    cases outcome with
    | transient code =>
      refine Dated.add (f := fun instant id => a.again id a.operation instant) (fun _ _ => rfl)
        (fun _ _ => rfl) fun _ _ answer => ?_
      cases answer <;> exact .done _
    | _ => exact .done _

theorem dated_recordOne {call : Uuid} {results : List ItemResult} {syncedAt : Timestamp}
    {progress : Cycle.Progress} {a : Attempt} :
    Dated times ids (Cycle.recordOne call results syncedAt progress a) := by
  unfold Cycle.recordOne
  split
  · exact .done _
  · apply Dated.bind (.request rfl)
    intro answer
    cases answer with
    | error e => exact .done _
    | ok u => exact dated_count.bind fun report => .done _

theorem dated_closeOne {b : Batch} {progress : Cycle.Progress} {a : Attempt} :
    Dated times ids (Cycle.closeOne b progress a) := by
  unfold Cycle.closeOne
  split
  · exact .done _
  · apply Dated.bind (.request rfl)
    intro answer
    cases answer <;> exact .done _

theorem dated_sendGroups {policy : CallPolicy} {queue : List Attempt} {b : Batch}
    (groups : List (Operation × List Attempt)) (progress : Cycle.Progress) :
    Dated times ids (Cycle.sendGroups policy queue b groups progress) := by
  induction groups generalizing progress with
  | nil => exact .done _
  | cons head groups ih =>
    obtain ⟨op, group⟩ := head
    unfold Cycle.sendGroups
    apply dated_sendGroup.lift.service_bind
    intro answer
    cases answer with
    | error e =>
      simp only
      split
      · exact .done _
      · exact ih _
    | ok answer =>
      have records (progress : Cycle.Progress) :
          Dated times ids (Cycle.record answer.1 group answer.2 progress) :=
        Dated.bind (.request rfl) fun syncedAt => .foldlM (fun _ _ => dated_recordOne) _ _
      have closes (progress : Cycle.Progress) :
          Dated times ids (Cycle.closeSuperseded queue b progress) :=
        .foldlM (fun _ _ => dated_closeOne) _ _
      apply (records _).lift.service_bind
      intro progress
      split
      · exact (closes _).lift.service_bind fun progress => ih _
      · exact ih _

theorem dated_run {policy : CallPolicy} {maxCreates : Nat} {department : String} :
    Dated times ids (Cycle.run policy maxCreates department) := by
  unfold Cycle.run
  have reads : Dated times ids (Program.request (.pendingAttempts department)) := .request rfl
  exact Dated.service_bind reads fun queue => dated_sendGroups _ _

theorem dated_load {id : Uuid} : Dated times ids (Queue.load id) := by
  unfold Queue.load
  have reads : Dated times ids (Program.request (.getEvent id)) := .request rfl
  apply Dated.service_bind reads
  intro found
  cases found with
  | none => exact .done _
  | some event =>
    have lists : Dated times ids (Program.request (.attemptsOf id)) := .request rfl
    exact Dated.service_bind lists fun attempts => .done _

theorem dated_proposeIfStale {id : Uuid} {seen : Window} :
    Dated times ids (Queue.proposeIfStale id seen) := by
  unfold Queue.proposeIfStale
  apply dated_load.service_bind
  intro event
  split
  · exact .done _
  · rename_i op _
    refine Dated.add (f := fun instant id => .pending id event.id op seen instant) (fun _ _ => rfl)
      (fun _ _ => rfl) fun _ _ answer => ?_
    cases answer <;> exact .done _

theorem dated_withdraw {c : Completion} (attempts : List Attempt) :
    Dated times ids (Queue.withdraw c attempts) := by
  induction attempts with
  | nil => exact .done _
  | cons a attempts ih =>
    unfold Queue.withdraw
    have completes : Dated times ids (Program.request (.completeAttempt a.id c)) := .request rfl
    exact Dated.service_bind completes fun _ => ih

theorem dated_delete {id : Uuid} : Dated times ids (Queue.delete id) := by
  unfold Queue.delete
  apply dated_load.service_bind
  intro event
  split
  · exact .done _
  · have saves : Dated times ids (Program.request (.saveEvent event.markDeleted)) := .request rfl
    apply Dated.service_bind saves
    intro _
    split
    · exact .done _
    · rename_i latest _
      split
      · refine Dated.add (f := fun instant id => latest.again id .delete instant) (fun _ _ => rfl)
          (fun _ _ => rfl) fun _ _ answer => ?_
        cases answer <;> exact .done _
      · have clock : Dated times ids (Program.request .now) := .request rfl
        apply clock.lift.service_bind
        intro instant
        exact (dated_withdraw _).service_bind fun _ => .done _

end Programs

/-! ## Runs of dated programs -/

section Runs
variable {s after : Store} {t : List Moment} {times : List Timestamp} {ids : List Uuid}

/-- What the clock showed, in order. -/
def readings (t : List Moment) : List Timestamp :=
  t.filterMap Moment.reading?

/-- The identifiers that were issued, in order. -/
def issued (t : List Moment) : List Uuid :=
  t.filterMap Moment.issued?

theorem filterMap_cons_toList {α β : Type} (f : α → Option β) (a : α) (l : List α) :
    (a :: l).filterMap f = (f a).toList ++ l.filterMap f := by
  rw [List.filterMap_cons]
  cases f a <;> rfl

theorem added?_of_added? {m : Moment} {a : Attempt} (added : m.added? = some a) :
    m.request.added? = some a := by
  obtain ⟨store, request, answer⟩ := m
  cases request with
  | insertAttempt b =>
    cases answer with
    | error e => cases added
    | ok u => exact added
  | _ => cases added

/-- Only an addition brings an attempt with a new identifier or creation time. -/
theorem key_of_answers {r : Request} {answer : r.Answer} (answers : s.Answers r answer after)
    {a : Attempt} (mem : a ∈ after.attempts) :
    (∃ b ∈ s.attempts, b.createdAt = a.createdAt ∧ b.id = a.id) ∨ r.added? = some a := by
  cases Moment.leads_of_answers answers with
  | kept same leaves =>
    rw [same] at mem
    exact .inl ⟨a, mem, rfl, rfl⟩
  | added rows added unrecorded =>
    rw [rows] at mem
    rcases List.mem_append.1 mem with old | new
    · exact .inl ⟨a, old, rfl, rfl⟩
    · rw [List.mem_singleton.1 new]
      exact .inr (added?_of_added? added)
  | @recorded id c wrote recorded =>
    have changed : s.completeAttempt id c = .ok after := wrote
    unfold Store.completeAttempt at changed
    split at changed
    · rename_i rows found
      obtain rfl := Except.ok.inj changed
      obtain ⟨before, row, rest, split, -, -, rfl⟩ := changeFirst?_eq_some_iff.1 found
      rw [split]
      simp only [List.mem_append, List.mem_cons] at mem
      rcases mem with mem | rfl | mem
      · exact .inl ⟨a, by simp [mem], rfl, rfl⟩
      · exact .inl ⟨row, by simp, rfl, rfl⟩
      · exact .inl ⟨a, by simp [mem], rfl, rfl⟩
    · cases changed

theorem timely_of {m : Moment}
    (clock : ∀ instant, m.reading? = some instant → ∀ a ∈ m.store.attempts, a.createdAt ≤ instant)
    (fresh : ∀ id, m.issued? = some id → ∀ a ∈ m.store.attempts, a.id < id) : m.Timely := by
  obtain ⟨store, request, answer⟩ := m
  cases request with
  | now => exact clock answer rfl
  | freshId => exact fresh answer rfl
  | _ => trivial

/-- The first request of a dated program, and what is left of the program after its answer. -/
theorem Dated.step {α : Type} {r : Request} {next : r.Answer → Program α}
    (dated : Dated times ids (.ask r next)) (s : Store) (answer : r.Answer) :
    (∀ a, r.added? = some a → a.createdAt ∈ times ∧ a.id ∈ ids) ∧
      Dated ((⟨s, r, answer⟩ : Moment).reading?.toList ++ times)
        ((⟨s, r, answer⟩ : Moment).issued?.toList ++ ids) (next answer) := by
  cases dated with
  | insert created issued rest =>
    refine ⟨?_, rest answer⟩
    rintro _ ⟨⟩
    exact ⟨created, issued⟩
  | now rest => exact ⟨fun _ h => (by cases h), rest answer⟩
  | freshId rest => exact ⟨fun _ h => (by cases h), rest answer⟩
  | other other rest =>
    refine ⟨?_, (rest answer).mono ?_ ?_⟩
    · rw [other]
      exact fun _ h => by cases h
    · exact List.subset_append_right _ _
    · exact List.subset_append_right _ _

/-- In a run of a dated program the clock and the new identifiers are never behind the attempts. -/
theorem Dated.timely {α : Type} {p : Program α} {value : α} (dated : Dated times ids p)
    (run : Program.Runs p s t value after)
    (known : ∀ a ∈ s.attempts, a.createdAt ∈ times ∧ a.id ∈ ids)
    (clock : ∀ x ∈ times, ∀ y ∈ readings t, x ≤ y) (forward : (readings t).Pairwise (· ≤ ·))
    (fresh : ∀ x ∈ ids, ∀ y ∈ issued t, x < y) (increasing : (issued t).Pairwise (· < ·)) :
    (∀ m ∈ t, m.Timely) ∧
      ∀ a ∈ after.attempts, a.createdAt ∈ times ++ readings t ∧ a.id ∈ ids ++ issued t := by
  induction run generalizing times ids with
  | done value s => exact ⟨by simp, by simpa [readings, issued] using known⟩
  | @ask r next s middle after answer t value answered rest ih =>
    obtain ⟨adds, dated⟩ := dated.step s answer
    rw [readings, filterMap_cons_toList] at clock forward
    rw [issued, filterMap_cons_toList] at fresh increasing
    rw [List.pairwise_append] at forward increasing
    have known' : ∀ a ∈ middle.attempts, a.createdAt ∈ times ∧ a.id ∈ ids := by
      intro a mem
      rcases key_of_answers answered mem with ⟨b, hb, created, id⟩ | added
      · exact created ▸ id ▸ known b hb
      · exact adds a added
    have here : Moment.Timely ⟨s, r, answer⟩ := by
      refine timely_of (fun instant shown a mem => ?_) fun id shown a mem => ?_
      · exact clock _ (known a mem).1 instant (by simp [shown])
      · exact fresh _ (known a mem).2 id (by simp [shown])
    have clock' : ∀ x ∈ (⟨s, r, answer⟩ : Moment).reading?.toList ++ times, ∀ y ∈ readings t, x ≤ y := by
      intro x hx y hy
      rcases List.mem_append.1 hx with now | past
      · exact forward.2.2 x now y hy
      · exact clock x past y (List.mem_append_right _ hy)
    have fresh' : ∀ x ∈ (⟨s, r, answer⟩ : Moment).issued?.toList ++ ids, ∀ y ∈ issued t, x < y := by
      intro x hx y hy
      rcases List.mem_append.1 hx with now | past
      · exact increasing.2.2 x now y hy
      · exact fresh x past y (List.mem_append_right _ hy)
    have known'' : ∀ a ∈ middle.attempts,
        a.createdAt ∈ (⟨s, r, answer⟩ : Moment).reading?.toList ++ times ∧
          a.id ∈ (⟨s, r, answer⟩ : Moment).issued?.toList ++ ids := fun a mem =>
      ⟨List.mem_append_right _ (known' a mem).1, List.mem_append_right _ (known' a mem).2⟩
    obtain ⟨timely, later⟩ := ih dated known'' clock' forward.2.1 fresh' increasing.2.1
    refine ⟨List.forall_mem_cons.2 ⟨here, timely⟩, fun a mem => ?_⟩
    obtain ⟨created, named⟩ := later a mem
    rw [readings, issued, filterMap_cons_toList, filterMap_cons_toList]
    simp only [List.mem_append] at created named ⊢
    exact ⟨by tauto, by tauto⟩

end Runs
end CalendarSync
