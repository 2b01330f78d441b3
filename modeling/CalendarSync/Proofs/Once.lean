import CalendarSync.Proofs.Dating
import CalendarSync.Proofs.Moves
import CalendarSync.Proofs.Queue

/-!
# Outcomes are recorded once

An operation records at most one outcome for each attempt that it may answer, in the order in which
it goes through them. What it adds has no outcome yet and a new identifier of its own.
-/

namespace CalendarSync
set_option autoImplicit false
open Program Simulation

variable {s after : Store} {t t' : List Moment} {todo todo' : List Attempt} {a : Attempt}
  {id : Uuid} {c : Completion}

/-! ## What a run records -/

/-- There is nothing but the proposal yet. -/
def Attempt.Fresh (a : Attempt) : Prop :=
  a = .pending a.id a.event a.operation a.window a.createdAt

theorem Attempt.Fresh.isPending (fresh : a.Fresh) : a.isPending = true := by
  rw [fresh]
  rfl

/-- The attempts that get an outcome, in order. -/
def closings (t : List Moment) : List Uuid :=
  t.filterMap fun m => m.recorded?.map (·.1)

theorem closings_append (t t' : List Moment) : closings (t ++ t') = closings t ++ closings t' :=
  List.filterMap_append

theorem closings_cons (m : Moment) (t : List Moment) :
    closings (m :: t) = closings [m] ++ closings t :=
  closings_append [m] t

theorem mem_closings : id ∈ closings t ↔ ∃ m ∈ t, ∃ c, m.recorded? = some (id, c) := by
  simp [closings]

/-- The identifiers of new attempts, in order. -/
def addings (t : List Moment) : List Uuid :=
  t.filterMap fun m => m.added?.map (·.id)

theorem addings_append (t t' : List Moment) : addings (t ++ t') = addings t ++ addings t' :=
  List.filterMap_append

theorem addings_cons (m : Moment) (t : List Moment) :
    addings (m :: t) = addings [m] ++ addings t :=
  addings_append [m] t

theorem issued_append (t t' : List Moment) : issued (t ++ t') = issued t ++ issued t' :=
  List.filterMap_append

/-- Identifiers that stay new over a trace are new over its beginning. -/
theorem nodup_issued_left {ids : List Uuid} {t t' : List Moment}
    (fresh : (ids ++ issued (t ++ t')).Nodup) : (ids ++ issued t).Nodup := by
  rw [issued_append, ← List.append_assoc] at fresh
  exact fresh.of_append_left

/-- Outcomes are recorded for these attempts only, in their order and at most once for each. New
attempts have no outcome, and each has an identifier that was issued for it. -/
structure Noted (todo : List Attempt) (t : List Moment) : Prop where
  closings : (closings t).Sublist (todo.map (·.id))
  added : ∀ m ∈ t, ∀ a, m.added? = some a → a.Fresh
  named : (addings t).Sublist (issued t)

theorem Noted.mono (noted : Noted todo t) (more : todo.Sublist todo') : Noted todo' t :=
  ⟨noted.closings.trans (more.map _), noted.added, noted.named⟩

theorem Noted.append (noted : Noted todo t) (noted' : Noted todo' t') :
    Noted (todo ++ todo') (t ++ t') := by
  refine ⟨?_, List.forall_mem_append.2 ⟨noted.added, noted'.added⟩, ?_⟩
  · rw [closings_append, List.map_append]
    exact noted.closings.append noted'.closings
  · rw [addings_append, issued_append]
    exact noted.named.append noted'.named

theorem Noted.of_leavesAttempts (leaves : ∀ m ∈ t, m.LeavesAttempts) : Noted [] t := by
  have unrecorded : CalendarSync.closings t = [] :=
    List.filterMap_eq_nil_iff.2 fun m mem => by rw [(leaves m mem).1]; rfl
  have unadded : addings t = [] :=
    List.filterMap_eq_nil_iff.2 fun m mem => by rw [(leaves m mem).2]; rfl
  refine ⟨by rw [unrecorded]; exact .slnil, fun m mem a added => ?_, ?_⟩
  · rw [(leaves m mem).2] at added
    cases added
  · rw [unadded]
    exact List.nil_sublist _

/-- An attempt is named and dated just before it is added. -/
theorem Noted.add {s' s'' : Store} {createdAt : Timestamp} {answer : Except DomainError Unit}
    (fresh : a.Fresh) :
    Noted [] [⟨s, .now, createdAt⟩, ⟨s', .freshId, a.id⟩, ⟨s'', .insertAttempt a, answer⟩] := by
  cases answer with
  | error e => exact .of_leavesAttempts (by simp [Moment.LeavesAttempts, Moment.recorded?,
      Moment.added?])
  | ok u =>
    refine ⟨by simp [CalendarSync.closings, Moment.recorded?], ?_, ?_⟩
    · simp [Moment.added?, fresh]
    · simp [addings, issued, Moment.added?, Moment.issued?]

/-- The program notes these attempts in every run. -/
def Program.Notes {α : Type} (todo : List Attempt) (p : Program α) : Prop :=
  ∀ s t value after, Runs p s t value after → Noted todo t

namespace Program.Notes
variable {α β : Type}

theorem noted {p : Program α} {value : α} (notes : Notes todo p) (run : Runs p s t value after) :
    Noted todo t :=
  notes s t value after run

theorem pure (value : α) : Notes [] (Pure.pure value) := by
  intro s t result after run
  obtain ⟨rfl, -, -⟩ := runs_pure_iff.1 run
  exact .of_leavesAttempts (by simp)

theorem bind {p : Program α} {f : α → Program β} (first : Notes todo p)
    (rest : ∀ value, Notes todo' (f value)) : Notes (todo ++ todo') (p >>= f) := by
  intro s t result after run
  obtain ⟨value, middle, t₁, t₂, rfl, run₁, run₂⟩ := runs_bind_iff.1 run
  exact (first.noted run₁).append ((rest value).noted run₂)

theorem mono {p : Program α} (notes : Notes todo p) (more : todo.Sublist todo') : Notes todo' p :=
  fun s t value after run => (notes s t value after run).mono more

/-- A program that notes nothing, at the head of another one. -/
theorem step {p : Program α} {f : α → Program β} (first : Notes [] p)
    (rest : ∀ value, Notes todo (f value)) : Notes todo (p >>= f) :=
  first.bind rest

/-- A program after which nothing is noted. -/
theorem last {p : Program α} {f : α → Program β} (first : Notes todo p)
    (rest : ∀ value, Notes [] (f value)) : Notes todo (p >>= f) := by
  simpa using first.bind rest

theorem request {r : Request} (idle : r.isIdle = true) : Notes [] (Program.request r) := by
  intro s t answer after run
  obtain ⟨-, rfl⟩ := runs_request_iff.1 run
  exact .of_leavesAttempts (List.forall_mem_singleton.2 (Moment.Idle.leavesAttempts idle))

/-- An outcome may be recorded. -/
theorem complete (a : Attempt) (c : Completion) :
    Notes [a] (Program.request (.completeAttempt a.id c)) := by
  intro s t answer after run
  obtain ⟨-, rfl⟩ := runs_request_iff.1 run
  refine ⟨?_, by simp [Moment.added?], by simp [addings, Moment.added?]⟩
  cases answer <;> simp [closings, Moment.recorded?]

/-- An attempt may be added. -/
theorem add {m : Timestamp → Uuid → Attempt}
    {next : Timestamp → Uuid → Except DomainError Unit → Program α}
    (named : ∀ createdAt fresh, (m createdAt fresh).id = fresh ∧ (m createdAt fresh).Fresh)
    (rest : ∀ createdAt fresh answer, Notes [] (next createdAt fresh answer)) :
    Notes [] (do
      let createdAt ← Program.request .now
      let fresh ← Program.request .freshId
      let answer ← Program.request (.insertAttempt (m createdAt fresh))
      next createdAt fresh answer) := by
  intro s t value after run
  obtain ⟨createdAt, s₁, _, -, rfl, run₁⟩ := runs_request_bind_iff.1 run
  obtain ⟨id, s₂, _, -, rfl, run₂⟩ := runs_request_bind_iff.1 run₁
  obtain ⟨answer, s₃, _, -, rfl, run₃⟩ := runs_request_bind_iff.1 run₂
  obtain ⟨same, fresh⟩ := named createdAt id
  have added : Noted [] [⟨s, .now, createdAt⟩, ⟨s₁, .freshId, id⟩,
      ⟨s₂, .insertAttempt (m createdAt id), answer⟩] := by
    simpa only [same] using Noted.add fresh
  exact added.append ((rest createdAt id answer).noted run₃)

theorem lift {p : Program α} (notes : Notes todo p) : Notes todo (ExceptT.lift p : Service α) := by
  intro s t result after run
  obtain ⟨value, -, run⟩ := Service.runs_lift_iff.1 run
  exact notes.noted run

theorem service_bind {p : Service α} {f : α → Service β} (first : Notes todo p)
    (rest : ∀ value, Notes todo' (f value)) : Notes (todo ++ todo') (p >>= f : Service β) := by
  intro s t result after run
  obtain ⟨e, -, run⟩ | ⟨value, middle, t₁, t₂, rfl, run₁, run₂⟩ := Service.runs_bind_iff.1 run
  · exact (first.noted run).mono (List.sublist_append_left _ _)
  · exact (first.noted run₁).append ((rest value).noted run₂)

theorem service_step {p : Service α} {f : α → Service β} (first : Notes [] p)
    (rest : ∀ value, Notes todo (f value)) : Notes todo (p >>= f : Service β) :=
  service_bind first rest

theorem service_last {p : Service α} {f : α → Service β} (first : Notes todo p)
    (rest : ∀ value, Notes [] (f value)) : Notes todo (p >>= f : Service β) := by
  simpa using first.service_bind rest

/-- A loop notes what its iterations do. -/
theorem foldlM {σ : Type} {f : σ → Attempt → Program σ} (each : ∀ value a, Notes [a] (f value a))
    (l : List Attempt) (value : σ) : Notes l (l.foldlM f value) := by
  induction l generalizing value with
  | nil => exact .pure value
  | cons a l ih =>
    rw [List.foldlM_cons]
    exact (each value a).bind ih

end Program.Notes

/-! ## The programs of a cycle -/

namespace Cycle

theorem notes_sendGroup {policy : CallPolicy} {op : Operation} {group : List Attempt} :
    Notes [] (sendGroup policy op group) := by
  intro s t result after run
  obtain ⟨-, sending, -⟩ := runs_sendGroup run
  exact .of_leavesAttempts fun m mem => (sending m mem).idle.leavesAttempts

theorem notes_count {report : CycleReport} : Notes [] (count a report) := by
  unfold count
  cases a.outcome with
  | error e => exact .pure _
  | ok outcome =>
    cases outcome with
    | transient code =>
      refine .add (m := fun createdAt fresh => a.again fresh a.operation createdAt)
        (fun _ _ => ⟨rfl, rfl⟩) fun _ _ answer => ?_
      cases answer <;> exact .pure _
    | _ => exact .pure _

theorem notes_recordOne {call : Uuid} {results : List ItemResult} {syncedAt : Timestamp}
    (progress : Progress) (a : Attempt) :
    Notes [a] (recordOne call results syncedAt progress a) := by
  unfold recordOne
  split
  · exact .mono (.pure _) (List.nil_sublist _)
  · refine .last (.complete a _) fun answer => ?_
    cases answer with
    | error e => exact .pure _
    | ok u => exact notes_count.step fun report => .pure _

theorem notes_record {call : Uuid} {group : List Attempt} {results : List ItemResult}
    {progress : Progress} : Notes group (record call group results progress) :=
  .step (.request rfl) fun _ => .foldlM notes_recordOne group progress

theorem notes_closeOne {b : Batch} (progress : Progress) (a : Attempt) :
    Notes [a] (closeOne b progress a) := by
  unfold closeOne
  split
  · exact .mono (.pure _) (List.nil_sublist _)
  · refine .last (.complete a _) fun answer => ?_
    cases answer <;> exact .pure _

/-- Sending groups notes the attempts that their answers are for, and the updates closed with
these. -/
theorem notes_sendGroups {policy : CallPolicy} {queue : List Attempt} {b : Batch}
    (groups : List (Operation × List Attempt)) (progress : Progress) :
    Notes (toAnswer queue b groups) (sendGroups policy queue b groups progress) := by
  induction groups generalizing progress with
  | nil => exact .pure _
  | cons head groups ih =>
    obtain ⟨op, group⟩ := head
    unfold sendGroups
    refine .service_step notes_sendGroup.lift fun answer => ?_
    cases answer with
    | error e =>
      simp only
      split
      · exact .mono (.pure _) (List.nil_sublist _)
      · exact .mono (ih _) (List.sublist_append_right _ _)
    | ok answer =>
      change Notes (group ++ toClose queue b op ++ toAnswer queue b groups) _
      rw [List.append_assoc]
      refine .service_bind notes_record.lift fun progress => ?_
      split
      · rename_i update
        rw [toClose, if_pos update]
        exact .service_bind (Notes.foldlM notes_closeOne _ _).lift fun progress => ih progress
      · rename_i other
        rw [toClose, if_neg other]
        exact ih progress

theorem noted_run {policy : CallPolicy} {maxCreates : Nat} {department : String}
    {result : Except DomainError CycleReport}
    (run : Runs (Cycle.run policy maxCreates department) s t result after) :
    Noted (toAnswer (s.pending department) (Batch.build (s.pending department) maxCreates)
      (Batch.build (s.pending department) maxCreates).groups) t := by
  have read (answer : Except DomainError (List Attempt)) :
      Noted [] [⟨s, .pendingAttempts department, answer⟩] :=
    .of_leavesAttempts (List.forall_mem_singleton.2 ⟨rfl, rfl⟩)
  obtain ⟨e, rfl, -⟩ | ⟨rest, rfl, sent⟩ := runs_run run
  · exact (read _).mono (List.nil_sublist _)
  · exact (read _).append ((notes_sendGroups _ _).noted sent)

end Cycle

/-! ## The programs of the queue -/

namespace Queue

theorem notes_load : Notes [] (load id) := by
  unfold load
  refine .service_step (.request rfl) fun found => ?_
  cases found with
  | none => exact .pure _
  | some event => exact .service_step (.request rfl) fun _ => .pure _

/-- Adding a new attempt. -/
theorem notes_add {make : Timestamp → Uuid → Attempt}
    (named : ∀ createdAt fresh, (make createdAt fresh).id = fresh ∧ (make createdAt fresh).Fresh) :
    Notes [] (do
      let createdAt ← Service.now
      let fresh ← Service.freshId
      Service.storage (.request (.insertAttempt (make createdAt fresh)))
      return some (make createdAt fresh) : Service (Option Attempt)) := by
  intro s t value after run
  obtain ⟨createdAt, s₁, _, _, rfl, clock, run₁⟩ := Service.runs_lift_bind_iff.1 run
  obtain ⟨-, rfl⟩ := runs_request_iff.1 clock
  obtain ⟨id, s₂, _, _, rfl, issue, run₂⟩ := Service.runs_lift_bind_iff.1 run₁
  obtain ⟨-, rfl⟩ := runs_request_iff.1 issue
  obtain ⟨same, fresh⟩ := named createdAt id
  have added (answer : Except DomainError Unit) : Noted [] [⟨s, .now, createdAt⟩,
      ⟨s₁, .freshId, id⟩, ⟨s₂, .insertAttempt (make createdAt id), answer⟩] := by
    simpa only [same] using Noted.add fresh
  obtain ⟨e, -, insert⟩ | ⟨u, _, _, _, rfl, insert, run₃⟩ := Service.runs_bind_iff.1 run₂
  · obtain ⟨-, rfl⟩ := runs_request_iff.1 insert
    exact added _
  · obtain ⟨-, rfl⟩ := runs_request_iff.1 insert
    obtain ⟨rfl, -, -⟩ := Service.runs_pure_iff.1 run₃
    exact added _

theorem notes_proposeIfStale {seen : Window} : Notes [] (proposeIfStale id seen) := by
  unfold proposeIfStale
  refine .service_step notes_load fun event => ?_
  split
  · exact .pure _
  · exact notes_add fun _ _ => ⟨rfl, rfl⟩

theorem notes_withdraw (c : Completion) (l : List Attempt) : Notes l (withdraw c l) := by
  induction l with
  | nil => exact .pure _
  | cons a l ih => exact .service_bind (.complete a c) fun _ => ih

/-- A delete may withdraw what waits for the event. -/
theorem noted_delete {result : Except DomainError (Option Attempt)}
    (run : Runs (delete id) s t result after) :
    Noted ((s.history id).filter (·.isPending)) t := by
  unfold delete at run
  obtain ⟨e, -, loaded⟩ | ⟨event, middle, t₁, t₂, rfl, loaded, run⟩ := Service.runs_bind_iff.1 run
  · exact (notes_load.noted loaded).mono (List.nil_sublist _)
  obtain ⟨rfl, -, known⟩ := runs_load loaded
  obtain ⟨row, -, rfl⟩ := known event rfl
  refine (notes_load.noted loaded).append (Notes.noted ?_ run)
  split
  · exact .mono (.pure _) (List.nil_sublist _)
  · refine .service_step (.request rfl) fun _ => ?_
    split
    · exact .mono (.pure _) (List.nil_sublist _)
    · split
      · exact .mono (notes_add fun _ _ => ⟨rfl, rfl⟩) (List.nil_sublist _)
      · refine .service_step (.lift (.request rfl)) fun instant => ?_
        exact .service_last (notes_withdraw _ _) fun _ => .pure _

end Queue

end CalendarSync
