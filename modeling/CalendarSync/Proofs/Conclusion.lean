import CalendarSync.Proofs.Growth
import CalendarSync.Proofs.Overtaking
import CalendarSync.Proofs.Vigilance

/-!
# What the last call leaves

However a tick ends, the last call that it made is concluded: if it was answered, the tables are
those of the call's time with the answer applied in full, and otherwise they are as they were. An
answer is applied without calls and waits in between. Both are carried through a tick by one
predicate on runs, which holds of two runs in a row if it holds of each. Outcomes are written by
identifier, so that they are applied in full only where the identifiers of the attempts are apart.
-/

namespace CalendarSync
set_option autoImplicit false
open Program Simulation

variable {s middle after : Store} {t t' : List Moment}

/-! ## The last call -/

/-- The last call of a run. -/
def lastCall? (t : List Moment) : Option Moment :=
  (t.filter (·.request.isCall)).getLast?

theorem lastCall?_append (t t' : List Moment) :
    lastCall? (t ++ t') = (lastCall? t').or (lastCall? t) := by
  unfold lastCall?
  rw [List.filter_append, List.getLast?_append]

theorem lastCall?_of_uncalled (uncalled : ∀ m ∈ t, m.request.isCall = false) :
    lastCall? t = none := by
  rw [lastCall?, List.filter_eq_nil_iff.2 fun m mem => by simp [uncalled m mem]]
  rfl

/-- A call that no other one follows. -/
theorem lastCall?_of_behind {m : Moment} (isCall : m.request.isCall = true)
    (behind : ∀ m ∈ t', m.request.isCall = false) : lastCall? (t ++ m :: t') = some m := by
  have one : lastCall? [m] = some m := by simp [lastCall?, isCall]
  rw [List.append_cons, lastCall?_append, lastCall?_append, lastCall?_of_uncalled behind, one]
  rfl

section Tries
variable {ε α : Type} {made : Store → Except ε α → Moment} {token : Token}
  {final : Option (Except ε α)}

/-- The last call is the last try. -/
theorem Tries.lastCall? (calls : ∀ answer, (made s answer).request.isCall = true)
    (tries : Tries made token s t final) : CalendarSync.lastCall? t = final.map (made s) := by
  have tried (answer : Except ε α) (quiet : List Moment)
      (uncalled : ∀ m ∈ quiet, m.request.isCall = false) :
      CalendarSync.lastCall? (⟨s, .isCancelled token, false⟩ :: made s answer :: quiet) =
        some (made s answer) :=
    lastCall?_of_behind (t := [⟨s, .isCancelled token, false⟩]) (calls answer) uncalled
  induction tries with
  | stopped => rfl
  | last answer => exact tried answer [] (by simp)
  | cut e policy retry => exact tried (.error e) [_] (List.forall_mem_singleton.2 rfl)
  | @again e policy retry t final rest ih =>
    have split := lastCall?_append [⟨s, .isCancelled token, false⟩, made s (.error e),
      ⟨s, .pause token policy retry, false⟩] t
    rw [tried (.error e) [_] (List.forall_mem_singleton.2 rfl), ih] at split
    refine split.trans ?_
    cases final <;> rfl

/-- Nothing comes after the try that is answered. -/
theorem Tries.ends {value : α} (tries : Tries made token s t final) (answered : final = some (.ok value)) :
    ∃ early, t = early ++ [made s (.ok value)] := by
  induction tries with
  | stopped => cases answered
  | last answer =>
    cases answered
    exact ⟨[_], rfl⟩
  | cut e policy retry => cases answered
  | @again e policy retry t final rest ih =>
    cases final with
    | none => cases answered
    | some answer =>
      obtain ⟨early, rfl⟩ := ih answered
      exact ⟨_ :: _ :: _ :: early, rfl⟩

variable {p : Prop} (tries : p ∧ t = [] ∧ final = none ∨ Tries made token s t final)

include tries in
theorem lastCall?_of_tries (calls : ∀ answer, (made s answer).request.isCall = true) :
    lastCall? t = final.map (made s) := by
  obtain ⟨-, rfl, rfl⟩ | tries := tries
  · rfl
  · exact tries.lastCall? calls

include tries in
theorem ends_of_tries {value : α} (answered : some value = final.bind Except.toOption) :
    ∃ early, t = early ++ [made s (.ok value)] := by
  obtain ⟨-, -, rfl⟩ | tries := tries
  · cases answered
  · refine tries.ends ?_
    cases final with
    | none => cases answered
    | some answer =>
      cases answer with
      | ok found => rw [Option.some.inj answered]
      | error e => cases answered

end Tries

/-! ## Answers in full -/

/-- Both hold the same attempts and resources. -/
structure Simulation.Store.Keeps (s after : Store) : Prop where
  attempts : after.attempts = s.attempts
  resources : after.resources = s.resources

theorem Simulation.Store.Keeps.refl (s : Store) : s.Keeps s :=
  ⟨rfl, rfl⟩

theorem Simulation.Store.Keeps.trans (first : s.Keeps middle) (second : middle.Keeps after) :
    s.Keeps after :=
  ⟨second.attempts.trans first.attempts, second.resources.trans first.resources⟩

/-- The attempt of a group whose outcome an attempt gets: an update that of the update for its event,
and any other attempt its own. -/
def Attempt.heir? (op : Operation) (group : List Attempt) (a : Attempt) : Option Attempt :=
  group.find? fun w => if op = .update then w.event = a.event else w.id = a.id

/-- The outcome that the answer to the group of an operation has for a row of the table. -/
def Answer.share? (g : Answer) (op : Operation) (group : List Attempt) (a : Attempt) :
    Option Completion :=
  if a.isPending && a.operation == op then (a.heir? op group).bind fun w => g.completion? w.id
  else none

/-- The answer to the call of a group has been applied to the attempts: all pending attempts that it
is about have their outcome, those that a more recent update of the group supersedes as well, and
transient failures are followed by new attempts. -/
structure Answer.Applied (g : Answer) (op : Operation) (group : List Attempt) (s after : Store) :
    Prop where
  attempts : ∃ resends, after.attempts =
    (s.attempts.map fun a => a.settle (g.share? op group a)) ++ resends ∧
      List.Forall₂ Attempt.Repeats (group.filter fun a => a.fails (g.completion? a.id)) resends
  resources : after.resources = s.resources

/-- The plan for the Planner's list has been applied to the resources. -/
structure Reconciliation.Applied (department : String) (listed : List ListedResource)
    (s after : Store) : Prop where
  attempts : after.attempts = s.attempts
  resources : ∃ instant rows,
    Resource.Made department instant (s.plan department listed).toAdd rows ∧
      after.resources = ((s.insertResources rows).deleteResources
        (s.plan department listed).toDelete instant).resources

namespace Moment

/-- The call was answered. -/
def isAnswered : Moment → Bool
  | ⟨_, .send _ _ _ _, .ok _⟩ | ⟨_, .listResources _ _, .ok _⟩ => true
  | _ => false

/-- The call brought outcomes for attempts. -/
def hasOutcomes : Moment → Bool
  | ⟨_, .send _ _ _ _, .ok _⟩ => true
  | _ => false

/-- The tables show that the call has been concluded: its answer has been applied to the tables that
it found, in which nothing has changed if there is no answer. -/
def Concluded (after : Store) : Moment → Prop
  | ⟨s, .send op group _ _, .ok results⟩ =>
    ∃ call syncedAt, Answer.Applied ⟨call, syncedAt, results⟩ op group s after
  | ⟨s, .listResources department _, .ok listed⟩ =>
    Reconciliation.Applied department listed s after
  | ⟨s, _, _⟩ => s.Keeps after

theorem Concluded.of_keeps {m : Moment} (unanswered : m.isAnswered = false)
    (keeps : m.store.Keeps after) : m.Concluded after := by
  obtain ⟨store, request, answer⟩ := m
  cases request with
  | send op group correlation limit =>
    cases answer with
    | ok results => cases unanswered
    | error e => exact keeps
  | listResources department limit =>
    cases answer with
    | ok listed => cases unanswered
    | error e => exact keeps
  | _ => exact keeps

/-- It stays concluded while attempts and resources stay. -/
theorem Concluded.keeps {m : Moment} (concluded : m.Concluded middle)
    (keeps : middle.Keeps after) : m.Concluded after := by
  obtain ⟨store, request, answer⟩ := m
  cases request with
  | send op group correlation limit =>
    cases answer with
    | ok results =>
      obtain ⟨call, syncedAt, attempts, resources⟩ := concluded
      exact ⟨call, syncedAt, keeps.attempts ▸ attempts, keeps.resources.trans resources⟩
    | error e => exact Store.Keeps.trans concluded keeps
  | listResources department limit =>
    cases answer with
    | ok listed =>
      obtain ⟨attempts, resources⟩ := concluded
      exact ⟨keeps.attempts.trans attempts, keeps.resources ▸ resources⟩
    | error e => exact Store.Keeps.trans concluded keeps
  | _ => exact Store.Keeps.trans concluded keeps

/-- The moment is about the rows of attempts or of resources. -/
def Edits (m : Moment) : Prop :=
  m.request.table? = some .attempts ∨ m.request.table? = some .resources

instance (m : Moment) : Decidable m.Edits :=
  inferInstanceAs (Decidable (_ ∨ _))

end Moment

/-- The answer of a call and what happens right after it. -/
def Answering (recent : List Moment) : Prop :=
  ∃ m quiet, recent = m :: quiet ∧ m.isAnswered = true ∧ ∀ m ∈ quiet, m.request.isInternal = true

/-- The last call has been concluded, if identifiers are apart where it brought outcomes, and what
changes attempts or resources comes right after an answer. -/
structure Concluded (apart : Prop) (s : Store) (t : List Moment) (after : Store) : Prop where
  idle : lastCall? t = none → s.Keeps after
  last : ∀ m, lastCall? t = some m → (m.hasOutcomes = true → apart) → m.Concluded after
  led : Led Moment.Edits Answering t

namespace Concluded
variable {apart apart' : Prop}

theorem mono (concluded : Concluded apart s t after) (less : apart' → apart) :
    Concluded apart' s t after :=
  ⟨concluded.idle, fun m same known => concluded.last m same (less ∘ known), concluded.led⟩

/-- A run without calls that keeps to other tables. -/
theorem of_quiet (keeps : s.Keeps after) (uncalled : ∀ m ∈ t, m.request.isCall = false)
    (unedited : ∀ m ∈ t, ¬ m.Edits) : Concluded apart s t after := by
  refine ⟨fun _ => keeps, fun m last _ => ?_, .of_none unedited⟩
  rw [lastCall?_of_uncalled uncalled] at last
  cases last

/-- A call without an answer. -/
theorem of_unanswered {ε α : Type} {made : Except ε α → Moment} {final : Option (Except ε α)}
    (last : lastCall? t = final.map made) (none : none = final.bind Except.toOption)
    (unanswered : ∀ e, (made (.error e)).isAnswered = false ∧ (made (.error e)).store.Keeps after)
    (keeps : s.Keeps after) (unedited : ∀ m ∈ t, ¬ m.Edits) : Concluded apart s t after := by
  refine ⟨fun _ => keeps, fun m same _ => ?_, .of_none unedited⟩
  rw [last] at same
  obtain ⟨answer, rfl, rfl⟩ := Option.map_eq_some_iff.1 same
  cases answer with
  | ok value => cases none
  | error e => exact .of_keeps (unanswered e).1 (unanswered e).2

/-- Two runs, one after the other. -/
theorem append (first : Concluded apart s t middle) (second : Concluded apart middle t' after) :
    Concluded apart s (t ++ t') after := by
  refine ⟨fun none => ?_, fun m last known => ?_, first.led.append second.led⟩
  · rw [lastCall?_append, Option.or_eq_none_iff] at none
    exact (first.idle none.2).trans (second.idle none.1)
  · rw [lastCall?_append, Option.or_eq_some_iff] at last
    obtain last | ⟨none, last⟩ := last
    · exact second.last m last known
    · exact (first.last m last known).keeps (second.idle none)

end Concluded

/-- What follows an answer right away may change attempts and resources. -/
theorem Led.answering {early quiet : List Moment} {m : Moment} (answered : m.isAnswered = true)
    (unedited : ∀ m' ∈ early ++ [m], ¬ m'.Edits)
    (internal : ∀ m' ∈ quiet, m'.request.isInternal = true) :
    Led Moment.Edits Answering (early ++ m :: quiet) := by
  intro before w rest split edits
  rw [List.append_cons] at split
  have behind : ∃ more, before = (early ++ [m]) ++ more ∧ quiet = more ++ w :: rest := by
    obtain ⟨more, rfl, later⟩ | ⟨more, start, later⟩ := List.append_eq_append_iff.1 split
    · exact ⟨more, rfl, later⟩
    · cases more with
      | nil => exact ⟨[], by simpa using start.symm, later.symm⟩
      | cons x more =>
        obtain ⟨rfl, -⟩ := List.cons.inj later
        exact absurd edits (unedited w (start ▸ by simp))
  obtain ⟨more, rfl, rfl⟩ := behind
  refine ⟨early, m :: more, by simp, m, more, rfl, answered, fun m' mem => ?_⟩
  exact internal m' (List.mem_append_left _ mem)

/-- A call whose answer has been applied right away. -/
theorem Concluded.of_answer {apart : Prop} {early quiet : List Moment} {m : Moment}
    (isCall : m.request.isCall = true) (answered : m.isAnswered = true)
    (unedited : ∀ m' ∈ early ++ [m], ¬ m'.Edits)
    (internal : ∀ m' ∈ quiet, m'.request.isInternal = true)
    (concluded : (m.hasOutcomes = true → apart) → m.Concluded after) :
    Concluded apart s (early ++ m :: quiet) after := by
  have last : lastCall? (early ++ m :: quiet) = some m :=
    lastCall?_of_behind isCall fun m mem => Request.isCall_of_isInternal (internal m mem)
  refine ⟨fun none => ?_, fun m' same known => ?_, .answering answered unedited internal⟩
  · rw [last] at none
    cases none
  · obtain rfl := Option.some.inj (last.symm.trans same)
    exact concluded known

/-! ## Cycles -/

theorem unedited_of_within {m : Moment} {tables : List Table}
    (within : m.request.within tables = true) (attempts : .attempts ∉ tables)
    (resources : .resources ∉ tables) : ¬ m.Edits := by
  rw [Request.within] at within
  rintro (same | same) <;> rw [same] at within
  · exact attempts (by simpa using within)
  · exact resources (by simpa using within)

/-- A program that writes to neither attempts nor resources. -/
theorem Program.Only.keeps {α : Type} {p : Program α} {value : α} {tables : List Table}
    (only : Only (Request.within tables) p) (run : Runs p s t value after)
    (attempts : .attempts ∉ tables) (resources : .resources ∉ tables) : s.Keeps after :=
  ⟨only.agree .attempts run attempts, only.agree .resources run resources⟩

namespace Cycle
variable {policy : CallPolicy} {op : Operation} {group : List Attempt} {s₀ : Store}
  {maxCreates : Nat} {department : String} {done done' : Uuid → Option Completion}
  {new more : List Attempt} {a : Attempt}

/-- The turn of a group that is not answered. -/
theorem concluded_error {apart : Prop} {e : DomainError}
    (run : Runs (sendGroup policy op group) s t (.error e) after) (stored : ∀ m ∈ t, m.Stored) :
    Concluded apart s t after := by
  have keeps : s.Keeps after := only_sendGroup.keeps run (by decide) (by decide)
  have unedited : ∀ m ∈ t, ¬ m.Edits := fun m mem =>
    unedited_of_within (only_sendGroup.moments run m mem) (by decide) (by decide)
  generalize answered : (.error e : Except DomainError (Uuid × List ItemResult)) = result at run
  cases posting_sendGroup run stored with
  | @posted correlation id startedAt endedAt opened _ calls final reply response opens tries replied
      closes =>
    cases reply with
    | ok results => cases answered
    | error e' =>
      have same : s.Keeps opened := opens ▸ ⟨rfl, rfl⟩
      have keeps' : opened.Keeps after := ⟨keeps.attempts.trans same.attempts.symm,
        keeps.resources.trans same.resources.symm⟩
      have last := lastCall?_of_tries tries fun _ => rfl
      refine .of_unanswered (Eq.trans ?_ last) replied (fun e => ⟨rfl, keeps'⟩) keeps unedited
      rw [lastCall?_append, lastCall?_append,
        lastCall?_of_uncalled (t := [_, _]) (by simp [Request.isCall]),
        lastCall?_of_uncalled (t := [_, _, _, _]) (by simp [Request.isCall]), Option.none_or,
        Option.or_none]

/-- The call of a group that is answered ends with its answer, after which the record is closed. -/
theorem exists_answer {call : Uuid} {results : List ItemResult}
    (run : Runs (sendGroup policy op group) s t (.ok (call, results)) after)
    (stored : ∀ m ∈ t, m.Stored) :
    ∃ early opened correlation limit quiet,
      t = early ++ ⟨opened, .send op group correlation limit, .ok results⟩ :: quiet ∧
        s.Keeps opened ∧ ∀ m ∈ quiet, m.request.isInternal = true := by
  generalize answered : (.ok (call, results) : Except DomainError _) = result at run
  cases posting_sendGroup run stored with
  | @posted correlation id startedAt endedAt opened _ calls final reply response opens tries replied
      closes =>
    cases reply with
    | error e => cases answered
    | ok results' =>
      obtain ⟨-, rfl⟩ := Prod.mk.inj (Except.ok.inj answered)
      obtain ⟨early, rfl⟩ := ends_of_tries tries replied
      rw [List.append_assoc early, List.singleton_append, ← List.append_assoc]
      exact ⟨_, opened, _, _, _, rfl, opens ▸ ⟨rfl, rfl⟩, by simp [Request.isInternal]⟩

section Shares
variable (distinct : (s.attempts.map (·.id)).Nodup) (mem : a ∈ s.attempts)

include distinct mem in
/-- Only for an attempt of the queue there is another one in its group that it takes its outcome
from. -/
theorem listed_of_heir? {w : Attempt} (pending : a.isPending = true)
    (found : a.heir? op ((Batch.build (s.pending department) maxCreates).group op) = some w) :
    a ∈ s.pending department := by
  have listed := (Batch.mem_of_mem_group (List.mem_of_find?_eq_some found)).1
  obtain ⟨mem', -, belongs⟩ := Store.mem_pending.1 listed
  have same := List.find?_some found
  split at same
  · refine Store.mem_pending.2 ⟨mem, pending, ?_⟩
    have event : w.event = a.event := by simpa using same
    unfold Store.belongsTo at belongs ⊢
    rwa [← event]
  · rwa [← Attempt.eq_of_id_eq distinct mem' mem (by simpa using same)]

include distinct mem in
/-- Other attempts than updates take their own outcome. -/
theorem heir?_of_ne (other : op ≠ .update) :
    a.heir? op ((Batch.build (s.pending department) maxCreates).group op) =
      if a ∈ (Batch.build (s.pending department) maxCreates).group op then some a else none := by
  simp only [Attempt.heir?, if_neg other]
  split
  · rename_i sent
    cases found : ((Batch.build (s.pending department) maxCreates).group op).find?
        fun w => w.id = a.id with
    | none => exact absurd (by simp) (List.find?_eq_none.1 found a sent)
    | some w =>
      have sent' := (Batch.mem_of_mem_group (List.mem_of_find?_eq_some found)).1
      rw [Attempt.eq_of_id_eq distinct (Store.mem_pending.1 sent').1 mem
        (by simpa using List.find?_some found)]
  · rename_i out
    refine List.find?_eq_none.2 fun w sent same => out ?_
    have listed := (Batch.mem_of_mem_group sent).1
    rwa [← Attempt.eq_of_id_eq distinct (Store.mem_pending.1 listed).1 mem (by simpa using same)]

include distinct mem in
/-- The outcome that the batch gives an attempt is the one that its group shares with it. -/
theorem share?_group (g : Answer) :
    g.share? a.operation ((Batch.build (s.pending department) maxCreates).group a.operation) a =
      (Batch.build (s.pending department) maxCreates).outcomeIn? g a := by
  have sub : (s.pending department).Sublist s.attempts := List.filter_sublist
  have own := distinct.sublist (sub.map (·.id))
  by_cases listed : a ∈ s.pending department
  · have pending := (Store.mem_pending.1 listed).2.1
    rw [Answer.share?, pending, beq_self_eq_true, Bool.and_true, if_pos rfl]
    by_cases update : a.operation = .update
    · rw [Batch.outcomeIn?_update own g (Batch.mem_waiting.2 ⟨listed, pending, update⟩), update]
      rfl
    · rw [heir?_of_ne distinct mem update, Batch.outcomeIn?]
      split
      · rfl
      · rw [if_neg]
        · rfl
        · exact fun superseded =>
            update ((Batch.mem_superseded_iff own listed).1 superseded).2.1
  · have none : (Batch.build (s.pending department) maxCreates).outcomeIn? g a = .none := by
      rw [Option.eq_none_iff_forall_ne_some]
      intro c outcome
      have answered : (Batch.build (s.pending department) maxCreates).outcome? (fun _ => some g) a =
        some c := outcome
      exact listed (Batch.mem_of_outcome? distinct sub mem answered)
    rw [none, Answer.share?]
    split
    · rename_i waits
      rw [Option.bind_eq_none_iff]
      intro w found
      have pending : a.isPending = true := (Bool.and_eq_true_iff.1 waits).1
      exact absurd (listed_of_heir? distinct mem pending found) listed
    · rfl

end Shares

/-- Rows of other operations have no share in an answer. -/
theorem share?_of_ne (g : Answer) (ne : a.operation ≠ op) : g.share? op group a = none := by
  simp [Answer.share?, ne]

/-- In terms of the rows at the time of the call. -/
theorem Settled.rows {g : Answer} (settled : Settled s₀ done new s)
    (settled' : Settled s₀ done' (new ++ more) after) (distinct : (s₀.attempts.map (·.id)).Nodup)
    (outcomes : ∀ a ∈ s₀.attempts, done' a.id = (if a.operation = op then
      (Batch.build (s₀.pending department) maxCreates).outcomeIn? g a else none).or (done a.id))
    (undone : ∀ a ∈ s₀.attempts, a.operation = op → done a.id = none)
    (apart : ∀ a ∈ new, a.operation ≠ op) :
    after.attempts = (s.attempts.map fun a => a.settle
      (g.share? op ((Batch.build (s₀.pending department) maxCreates).group op) a)) ++ more := by
  rw [settled'.attempts, settled.attempts, List.map_append, List.map_map, ← List.append_assoc]
  congr 2
  · refine List.map_congr_left fun a mem => ?_
    rw [Function.comp_apply, outcomes a mem]
    by_cases same : a.operation = op
    · subst same
      rw [undone a mem rfl, if_pos rfl, Option.or_none, ← share?_group distinct mem]
      rfl
    · have other : (a.settle (done a.id)).operation ≠ op := by rwa [Attempt.settle_operation]
      rw [if_neg same, Option.none_or, share?_of_ne g other]
      rfl
  · refine ((List.map_congr_left fun a mem => ?_).trans (List.map_id new)).symm
    rw [share?_of_ne g (apart a mem)]
    rfl

/-- The turn of a group that is answered, up to the end of the writes that follow. -/
theorem concluded_answer {apart : Prop} {call : Uuid} {results : List ItemResult}
    {syncedAt : Timestamp} {quiet : List Moment} {s₁ : Store}
    (sent : Runs (sendGroup policy op group) s t (.ok (call, results)) s₁)
    (stored : ∀ m ∈ t, m.Stored) (internal : ∀ m ∈ quiet, m.request.isInternal = true)
    (applied : apart → Answer.Applied ⟨call, syncedAt, results⟩ op group s after) :
    Concluded apart s (t ++ quiet) after := by
  have unedited : ∀ m ∈ t, ¬ m.Edits := fun m mem =>
    unedited_of_within (only_sendGroup.moments sent m mem) (by decide) (by decide)
  obtain ⟨early, opened, correlation, limit, behind, rfl, keeps, internal'⟩ :=
    exists_answer sent stored
  rw [List.append_assoc, List.cons_append]
  refine .of_answer rfl rfl (fun m mem => unedited m ?_)
    (List.forall_mem_append.2 ⟨internal', internal⟩) fun known => ?_
  · rw [List.append_cons]
    exact List.mem_append_left _ mem
  · obtain ⟨attempts, resources⟩ := applied (known rfl)
    have rows : opened.attempts = s.attempts := keeps.attempts
    refine ⟨call, syncedAt, ?_, resources.trans keeps.resources.symm⟩
    rw [rows]
    exact attempts

/-- What is proposed again is proposed for the same operation. -/
theorem operation_of_repeats {l : List Attempt} (repeats : List.Forall₂ Attempt.Repeats l more)
    (same : ∀ a ∈ l, a.operation = op) : ∀ r ∈ more, r.operation = op := by
  induction repeats with
  | nil => simp
  | cons again _ ih =>
    rw [List.forall_mem_cons] at same
    obtain ⟨id, createdAt, rfl⟩ := again
    exact List.forall_mem_cons.2 ⟨same.1, ih same.2⟩

/-- A cycle under way: the rows are those of its start with the outcomes so far and new rows behind
them, and the groups to come are as they were. -/
structure Underway (s₀ : Store) (groups : List (Operation × List Attempt)) (progress : Progress)
    (done : Uuid → Option Completion) (new : List Attempt) (s : Store) : Prop where
  settled : Settled s₀ done new s
  unrecorded : ∀ a ∈ s₀.attempts, a.operation ∈ groups.map Prod.fst →
    progress.recorded.lookup a.id = none ∧ done a.id = none
  apart : ∀ a ∈ new, a.operation ∉ groups.map Prod.fst

section Underway
variable {groups : List (Operation × List Attempt)} {progress next : Progress}
  {queue : List Attempt} {b : Batch}

theorem Underway.failed {e : DomainError}
    (underway : Underway s₀ ((op, group) :: groups) progress done new s)
    (sent : Runs (sendGroup policy op group) s t (.error e) after)
    (kept : next.recorded = progress.recorded) : Underway s₀ groups next done new after := by
  refine ⟨underway.settled.alike (runs_sendGroup sent).1, fun a mem here => ?_,
    fun a mem here => underway.apart a mem (List.mem_cons_of_mem _ here)⟩
  rw [kept]
  exact underway.unrecorded a mem (List.mem_cons_of_mem _ here)

/-- After an answer the group has its outcomes, and no other one has any more than before. -/
theorem Underway.answered {call : Uuid} {results : List ItemResult} {syncedAt : Timestamp}
    {t₁ t₂ t₃ : List Moment} {middle middle' : Progress} {s₁ s₂ : Store}
    (underway : Underway s₀ ((op, (Batch.build (s₀.pending department) maxCreates).group op) :: groups)
      progress done new s)
    (distinct : (s₀.attempts.map (·.id)).Nodup) (once : op ∉ groups.map Prod.fst)
    (sent : Runs (sendGroup policy op ((Batch.build (s₀.pending department) maxCreates).group op))
      s t₁ (.ok (call, results)) s₁)
    (kept : middle.recorded = progress.recorded)
    (recording : Runs (((Batch.build (s₀.pending department) maxCreates).group op).foldlM
      (recordOne call results syncedAt) middle) s₁ t₂ middle' s₂)
    (closing : Runs ((toClose (s₀.pending department)
      (Batch.build (s₀.pending department) maxCreates) op).foldlM
        (closeOne (Batch.build (s₀.pending department) maxCreates)) middle') s₂ t₃ next after)
    (stored : ∀ m ∈ t₂ ++ t₃, m.Stored) :
    Answer.Applied ⟨call, syncedAt, results⟩ op
      ((Batch.build (s₀.pending department) maxCreates).group op) s after ∧
    ∃ done' new', Underway s₀ groups next done' new' after := by
  obtain ⟨settled, unrecorded, apart⟩ := underway
  have here (a : Attempt) (mem : a ∈ s₀.attempts) (same : a.operation = op) :=
    unrecorded a mem (List.mem_cons.2 (.inl same))
  have later {a : Attempt} (there : a.operation ∈ groups.map Prod.fst) : a.operation ≠ op :=
    fun same => once (same ▸ there)
  let g : Answer := ⟨call, syncedAt, results⟩
  obtain ⟨done', resends, settled', outcomes, repeats, recorded, -⟩ :=
    (settled.alike (runs_sendGroup sent).1).answer (g := g) distinct List.filter_sublist
      (fun a mem same => by rw [kept]; exact (here a mem same).1) recording closing stored
  have resources : after.resources = s.resources :=
    (((only_sendGroup.agree .resources sent (by decide)).trans
      (only_recordAll.within.agree .resources recording (by decide))).trans
        (only_closeAll.within.agree .resources closing (by decide)) :)
  refine ⟨⟨⟨resends, settled.rows settled' distinct outcomes (fun a mem same => (here a mem same).2)
    fun a mem same => apart a mem (List.mem_cons.2 (.inl same)), repeats⟩, resources⟩,
    done', new ++ resends, settled', fun a mem there => ⟨?_, ?_⟩,
    List.forall_mem_append.2 ⟨fun a mem there => ?_, fun r mem there => ?_⟩⟩
  · rw [recorded a mem (later there), kept]
    exact (unrecorded a mem (List.mem_cons_of_mem _ there)).1
  · rw [outcomes a mem, if_neg (later there), Option.none_or]
    exact (unrecorded a mem (List.mem_cons_of_mem _ there)).2
  · exact apart a mem (List.mem_cons_of_mem _ there)
  · refine later there (operation_of_repeats repeats (fun a sent => ?_) r mem)
    exact (Batch.mem_of_mem_group (List.mem_filter.1 sent).1).2

end Underway

/-- Sending groups one after the other. -/
theorem concluded_sendGroups {groups : List (Operation × List Attempt)} {progress : Progress}
    {result : Except DomainError CycleReport}
    (underway : (s₀.attempts.map (·.id)).Nodup →
      ∃ done new, Underway s₀ groups progress done new s)
    (own : ∀ g ∈ groups, g.2 = (Batch.build (s₀.pending department) maxCreates).group g.1)
    (once : (groups.map Prod.fst).Nodup)
    (run : Runs (sendGroups policy (s₀.pending department)
      (Batch.build (s₀.pending department) maxCreates) groups progress) s t result after)
    (stored : ∀ m ∈ t, m.Stored) : Concluded (s₀.attempts.map (·.id)).Nodup s t after := by
  induction groups generalizing s t progress with
  | nil =>
    obtain ⟨rfl, rfl⟩ := runs_sendGroups_nil run
    exact .of_quiet (.refl _) (by simp) (by simp)
  | cons head groups ih =>
    obtain ⟨op, group⟩ := head
    rw [List.forall_mem_cons] at own
    obtain ⟨here, own⟩ := own
    obtain rfl : group = (Batch.build (s₀.pending department) maxCreates).group op := here
    rw [List.map_cons, List.nodup_cons] at once
    cases runs_sendGroups_cons run with
    | shutdown sent => exact concluded_error sent stored
    | failed sent kept more =>
      rw [List.forall_mem_append] at stored
      refine (concluded_error sent stored.1).append (ih (fun distinct => ?_) own once.2 more stored.2)
      obtain ⟨done, new, before⟩ := underway distinct
      exact ⟨done, new, before.failed sent kept⟩
    | @answered call results syncedAt t₁ t₂ t₃ t₄ _ _ next s₁ s₂ s₃ _ _ sent kept recording closing
        more =>
      have split : t₁ ++ ⟨s₁, .now, syncedAt⟩ :: (t₂ ++ (t₃ ++ t₄)) =
          (t₁ ++ ⟨s₁, .now, syncedAt⟩ :: (t₂ ++ t₃)) ++ t₄ := by simp
      rw [split] at stored ⊢
      simp only [List.forall_mem_append, List.forall_mem_cons] at stored
      obtain ⟨⟨stored₁, -, stored₂, stored₃⟩, stored₄⟩ := stored
      have turn (distinct : (s₀.attempts.map (·.id)).Nodup) :
          Answer.Applied ⟨call, syncedAt, results⟩ op
              ((Batch.build (s₀.pending department) maxCreates).group op) s s₃ ∧
            ∃ done new, Underway s₀ groups next done new s₃ := by
        obtain ⟨done, new, before⟩ := underway distinct
        exact before.answered distinct once.1 sent kept recording closing
          (List.forall_mem_append.2 ⟨stored₂, stored₃⟩)
      refine (concluded_answer sent stored₁ ?_ fun distinct => (turn distinct).1).append
        (ih (fun distinct => (turn distinct).2) own once.2 more stored₄)
      exact List.forall_mem_cons.2 ⟨rfl, List.forall_mem_append.2
        ⟨only_recordAll.internal recording, only_closeAll.internal closing⟩⟩

/-- A whole cycle. -/
theorem concluded_run {result : Except DomainError CycleReport}
    (run : Runs (Cycle.run policy maxCreates department) s t result after)
    (stored : ∀ m ∈ t, m.Stored) : Concluded (s.attempts.map (·.id)).Nodup s t after := by
  obtain ⟨e, rfl, -, -⟩ | ⟨rest, rfl, sent⟩ := runs_run run
  · exact absurd (stored _ (List.mem_singleton_self _)) (fun h => by cases h)
  rw [List.forall_mem_cons] at stored
  have start : Settled s (fun _ => none) [] s := by
    refine ⟨?_, rfl⟩
    rw [List.append_nil]
    exact (List.map_id s.attempts).symm
  have read : Concluded (s.attempts.map (·.id)).Nodup s
      [⟨s, .pendingAttempts department, .ok (s.pending department)⟩] s :=
    .of_quiet (.refl s) (by simp [Request.isCall]) (by simp [Moment.Edits, Request.table?])
  refine read.append (concluded_sendGroups (fun _ => ⟨_, [], start, fun _ _ _ => ⟨rfl, rfl⟩, ?_⟩)
    (fun g mem => (Batch.mem_groups.1 mem).1) (Batch.nodup_groups _) sent stored.2)
  simp

end Cycle
end CalendarSync
