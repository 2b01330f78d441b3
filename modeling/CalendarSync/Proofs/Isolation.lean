import CalendarSync.Proofs.Growth
import CalendarSync.Proofs.Resending
import CalendarSync.Proofs.Turns
import Mathlib.Data.List.Pairwise

/-!
# Failures stay where they are

What fails in a cycle costs no more than itself. A group whose call fails waits on with the updates
that it superseded, and so does a single attempt whose outcome the storage does not take; everything
else of the cycle goes on. Only the pull and an aborted call fail the cycle as a whole.
-/

namespace CalendarSync
set_option autoImplicit false
open Program Simulation

variable {s after : Store} {t t' : List Moment} {a : Attempt} {id : Uuid} {c : Completion}

/-! ## Outcomes in a trace -/

/-- The outcome that the storage takes for an identifier. -/
def Moment.outcomeFor? (m : Moment) (id : Uuid) : Option Completion :=
  m.recorded?.bind fun p => if p.1 = id then some p.2 else none

/-- The last outcome that the storage takes for an identifier. -/
def outcomeFor? : List Moment → Uuid → Option Completion
  | [], _ => none
  | m :: t, id => (outcomeFor? t id).or (m.outcomeFor? id)

theorem Moment.outcomeFor?_eq_some_iff {m : Moment} :
    m.outcomeFor? id = some c ↔ m.recorded? = some (id, c) := by
  unfold outcomeFor?
  rcases m.recorded? with _ | ⟨id', c'⟩
  · simp
  · by_cases same : id' = id <;> simp [same]

theorem Moment.stored_of_recorded {m : Moment} (recorded : m.recorded? = some (id, c)) :
    m.Stored := by
  unfold Moment.recorded? at recorded
  split at recorded
  · rfl
  · cases recorded

theorem outcomeFor?_eq_none_iff : outcomeFor? t id = none ↔ id ∉ closings t := by
  induction t with
  | nil => simp [outcomeFor?, closings]
  | cons m t ih =>
    have here : m.outcomeFor? id = none ↔ id ∉ closings [m] := by
      rw [mem_closings, Option.eq_none_iff_forall_ne_some]
      simp [Moment.outcomeFor?_eq_some_iff]
    rw [outcomeFor?, Option.or_eq_none_iff, ih, here, closings_cons m t, List.mem_append, not_or]
    exact and_comm

/-- Where no identifier gets two outcomes, each one is the last. -/
theorem outcomeFor?_of_recorded {m : Moment} (once : (closings t).Nodup) (mem : m ∈ t)
    (recorded : m.recorded? = some (id, c)) : outcomeFor? t id = some c := by
  induction t with
  | nil => cases mem
  | cons m' t ih =>
    rw [closings_cons, List.nodup_append] at once
    obtain ⟨-, once, apart⟩ := once
    rw [outcomeFor?]
    rcases List.mem_cons.1 mem with rfl | mem
    · have closed : id ∈ closings [m] :=
        mem_closings.2 ⟨m, List.mem_singleton_self m, c, recorded⟩
      have later : outcomeFor? t id = none :=
        outcomeFor?_eq_none_iff.2 fun later => apart id closed id later rfl
      rw [later, Option.none_or]
      exact Moment.outcomeFor?_eq_some_iff.2 recorded
    · rw [ih once mem, Option.some_or]

theorem Attempt.settle_settle (a : Attempt) (first second : Option Completion) :
    (a.settle first).settle second = a.settle (second.or first) := by
  cases first <;> cases second <;> rfl

/-- The first row with an identifier takes the outcomes for it. -/
theorem Moment.Leads.settles {m : Moment} (leads : m.Leads after)
    (found : m.store.attempt? id = some a) :
    after.attempt? id = some (a.settle (m.outcomeFor? id)) := by
  cases outcome : m.outcomeFor? id with
  | none =>
    refine leads.attempt? (fun c recorded => ?_) found
    rw [Moment.outcomeFor?_eq_some_iff.2 recorded] at outcome
    cases outcome
  | some c =>
    have recorded := Moment.outcomeFor?_eq_some_iff.1 outcome
    cases leads with
    | kept same leaves => rw [leaves.1] at recorded; cases recorded
    | added rows added unrecorded => rw [unrecorded] at recorded; cases recorded
    | recorded wrote recorded' =>
      obtain ⟨rfl, rfl⟩ := Prod.mk.inj (Option.some.inj (recorded.symm.trans recorded'))
      obtain ⟨before, row, rest, split, apart, same, rows⟩ :=
        Store.attempts_of_completeAttempt wrote
      have none : before.find? (fun a => decide (a.id = id)) = none := by
        simpa [List.find?_eq_none] using apart
      rw [Store.attempt?, split, List.find?_append, none, Option.none_or] at found
      rw [Store.attempt?, rows, List.find?_append, none, Option.none_or]
      obtain rfl : row = a := by simpa [same] using found
      simp [same, Attempt.settle]

theorem Program.Runs.settles {α : Type} {p : Program α} {value : α} (run : Runs p s t value after)
    (found : s.attempt? id = some a) :
    after.attempt? id = some (a.settle (outcomeFor? t id)) := by
  induction run generalizing a with
  | done value s => exact found
  | ask answered rest ih =>
    rw [ih ((Moment.leads_of_answers answered).settles found), Attempt.settle_settle, outcomeFor?]

namespace Cycle
variable {policy : CallPolicy} {queue group : List Attempt} {b : Batch} {progress next : Progress}
  {u : GroupTurn} {turns : List GroupTurn} {ids : List Uuid}

/-! ## Who gets an outcome -/

/-- The storage is asked to take the outcome that an answer has for an attempt. -/
theorem requested_recordOne {g : Answer}
    (run : Runs (recordOne g.call g.results g.syncedAt progress a) s t next after) :
    (g.completion? a.id = none → a.id ∉ closings t) ∧
      ∀ c, g.completion? a.id = some c → ∃ m ∈ t, m.request = .completeAttempt a.id c ∧
        (m.recorded? = some (a.id, c) ∨ ¬ m.Stored ∧ a.id ∉ closings t) := by
  have recording := runs_recordOne run
  generalize next.recorded = recorded at recording
  cases recording with
  | unanswered unknown =>
    rw [Answer.completion?_of_unknown unknown]
    exact ⟨fun _ => List.not_mem_nil, by simp⟩
  | lost e found =>
    rw [Answer.completion?_of_lastFor? found]
    refine ⟨by simp, ?_⟩
    rintro _ ⟨⟩
    refine ⟨_, List.mem_singleton_self _, rfl, .inr ⟨?_, List.not_mem_nil⟩⟩
    simp [Moment.Stored, Moment.fault?]
  | closed found wrote lasting =>
    rw [Answer.completion?_of_lastFor? found]
    refine ⟨by simp, ?_⟩
    rintro _ ⟨⟩
    exact ⟨_, List.mem_singleton_self _, rfl, .inl rfl⟩
  | again found wrote transient proposed =>
    rw [Answer.completion?_of_lastFor? found]
    refine ⟨by simp, ?_⟩
    rintro _ ⟨⟩
    exact ⟨_, List.mem_cons_self, rfl, .inl rfl⟩

/-- The attempts of a group, each with the outcome that the answer has for it: the storage is asked
to take it, whatever it did with the others. -/
theorem requested_record {g : Answer} (once : (group.map (·.id)).Nodup)
    (run : Runs (group.foldlM (recordOne g.call g.results g.syncedAt) progress) s t next after) :
    ∀ a ∈ group, (g.completion? a.id = none → a.id ∉ closings t) ∧
      ∀ c, g.completion? a.id = some c → ∃ m ∈ t, m.request = .completeAttempt a.id c ∧
        (m.recorded? = some (a.id, c) ∨ ¬ m.Stored ∧ a.id ∉ closings t) := by
  induction group generalizing s t progress with
  | nil => simp
  | cons a group ih =>
    rw [List.foldlM_cons] at run
    obtain ⟨middle, s₁, first, rest, rfl, head, tail⟩ := runs_bind_iff.1 run
    rw [List.map_cons, List.nodup_cons] at once
    -- Each part of the trace closes attempts of its own only.
    have own : (closings first).Sublist [a.id] := ((notes_recordOne _ a).noted head).closings
    have others : (closings rest).Sublist (group.map (·.id)) :=
      ((Notes.foldlM notes_recordOne group _).noted tail).closings
    have later : a.id ∉ closings rest := fun closed => once.1 (others.subset closed)
    simp only [closings_append, List.mem_append, not_or]
    refine List.forall_mem_cons.2 ⟨?_, fun a' listed => ?_⟩
    · obtain ⟨unanswered, answered⟩ := requested_recordOne head
      refine ⟨fun none => ⟨unanswered none, later⟩, fun c some => ?_⟩
      obtain ⟨m, mem, asked, outcome⟩ := answered c some
      exact ⟨m, .inl mem, asked, outcome.imp_right fun lost => ⟨lost.1, lost.2, later⟩⟩
    · have earlier : a'.id ∉ closings first := by
        intro closed
        rw [← List.mem_singleton.1 (own.subset closed)] at once
        exact once.1 (List.mem_map_of_mem listed)
      obtain ⟨unanswered, answered⟩ := ih once.2 tail a' listed
      refine ⟨fun none => ⟨earlier, unanswered none⟩, fun c some => ?_⟩
      obtain ⟨m, mem, asked, outcome⟩ := answered c some
      exact ⟨m, .inr mem, asked, outcome.imp_right fun lost => ⟨lost.1, earlier, lost.2⟩⟩

/-- The table of recorded outcomes lists what the storage took. -/
theorem recorded_record {call : Uuid} {results : List ItemResult} {syncedAt : Timestamp}
    (run : Runs (group.foldlM (recordOne call results syncedAt) progress) s t next after) :
    ∀ e ∈ next.recorded, e ∈ progress.recorded ∨ e.1 ∈ closings t := by
  induction group generalizing s t progress with
  | nil =>
    obtain ⟨-, rfl, -⟩ := runs_pure_iff.1 run
    exact fun e listed => .inl listed
  | cons a group ih =>
    rw [List.foldlM_cons] at run
    obtain ⟨middle, s₁, first, rest, rfl, head, tail⟩ := runs_bind_iff.1 run
    intro e listed
    rw [closings_append, List.mem_append]
    rcases ih tail e listed with known | later
    · have recording := runs_recordOne head
      generalize middle.recorded = recorded at recording known
      cases recording with
      | unanswered unknown => exact .inl known
      | lost fault found => exact .inl known
      | closed found wrote lasting =>
        refine (List.mem_cons.1 known).symm.imp_right ?_
        rintro rfl
        simp [closings, Moment.recorded?]
      | again found wrote transient proposed =>
        refine (List.mem_cons.1 known).symm.imp_right ?_
        rintro rfl
        simp [closings, Moment.recorded?]
    · exact .inr (.inr later)

/-- A superseded update is closed only if the outcome of its winner was recorded. -/
theorem closings_close {l : List Attempt}
    (run : Runs (l.foldlM (closeOne b) progress) s t next after) :
    next.recorded = progress.recorded ∧ ∀ id ∈ closings t, ∃ p ∈ l, p.id = id ∧
      ∃ w, b.winner? p = some w ∧ ∃ e ∈ progress.recorded, e.1 = w.id := by
  induction l generalizing s t progress with
  | nil =>
    obtain ⟨rfl, rfl, -⟩ := runs_pure_iff.1 run
    exact ⟨rfl, by simp [closings]⟩
  | cons p l ih =>
    rw [List.foldlM_cons] at run
    obtain ⟨middle, s₁, first, rest, rfl, head, tail⟩ := runs_bind_iff.1 run
    obtain ⟨closing, kept⟩ := runs_closeOne head
    obtain ⟨kept', later⟩ := ih tail
    refine ⟨kept'.trans kept, fun id closed => ?_⟩
    rw [closings_append, List.mem_append] at closed
    rcases closed with closed | closed
    · cases closing with
      | kept unknown => cases closed
      | lost e found => cases closed
      | @closed c _ found wrote =>
        obtain ⟨w, winner, outcome⟩ := Option.bind_eq_some_iff.1 found
        obtain ⟨l₁, l₂, split, -⟩ := List.lookup_eq_some_iff.1 outcome
        refine ⟨p, List.mem_cons_self, ?_, w, winner, (w.id, c), ?_, rfl⟩
        · simpa [closings, Moment.recorded?, eq_comm] using closed
        · rw [split]
          exact List.mem_append_right _ List.mem_cons_self
    · obtain ⟨q, listed, same, w, winner, e, known, last⟩ := later id closed
      exact ⟨q, List.mem_cons_of_mem _ listed, same, w, winner, e, kept ▸ known, last⟩

/-- What a turn may record outcomes for. -/
def GroupTurn.toRecord (queue : List Attempt) (b : Batch) (u : GroupTurn) : List Attempt :=
  u.group ++ toClose queue b u.operation

/-- The call of a group records no outcome. -/
theorem closings_sendGroup {op : Operation} {result : Except DomainError (Uuid × List ItemResult)}
    (run : Runs (sendGroup policy op group) s t result after) : closings t = [] :=
  List.sublist_nil.1 (notes_sendGroup.noted run).closings

theorem Takes.closings_sublist (takes : Takes policy queue b u progress s next after) :
    (closings u.moments).Sublist ((u.toRecord queue b).map (·.id)) := by
  rw [GroupTurn.moments, closings_append]
  cases takes with
  | refused called =>
    rw [closings_sendGroup called]
    exact List.nil_sublist _
  | answered called kept reported recording closing =>
    rw [closings_sendGroup called, GroupTurn.toRecord, List.map_append, List.nil_append]
    rw [closings_cons, closings_append]
    exact ((Notes.foldlM notes_recordOne _ _).noted recording).closings.append
      ((Notes.foldlM notes_closeOne _ _).noted closing).closings

/-- A turn records outcomes for its group, and for updates whose winner got one by then. -/
theorem Takes.told {past : List Moment} (takes : Takes policy queue b u progress s next after)
    (known : ∀ e ∈ progress.recorded, e.1 ∈ closings past) :
    (∀ e ∈ next.recorded, e.1 ∈ closings (past ++ u.moments)) ∧
      ∀ id ∈ closings u.moments, (∃ a ∈ u.group, a.id = id) ∨
        ∃ p ∈ toClose queue b u.operation, p.id = id ∧
          ∃ w, b.winner? p = some w ∧ w.id ∈ closings (past ++ u.moments) := by
  rw [closings_append, GroupTurn.moments, closings_append]
  cases takes with
  | refused called unstopped kept reported =>
    rw [closings_sendGroup called, kept]
    exact ⟨fun e listed => List.mem_append_left _ (known e listed), by simp [closings]⟩
  | @answered op group g t₁ t₂ t₃ _ opened recorded _ _ s₁ s₂ _ called kept reported recording
      closing =>
    have told := recorded_record recording
    obtain ⟨kept', closed⟩ := closings_close closing
    have silent : closings [(⟨s₁, .now, g.syncedAt⟩ : Moment)] = [] := rfl
    rw [closings_sendGroup called, List.nil_append, closings_cons, silent, List.nil_append,
      closings_append]
    have whole : ∀ e ∈ recorded.recorded, e.1 ∈ closings past ++
        (closings t₂ ++ closings t₃) := by
      intro e listed
      rw [List.mem_append, List.mem_append]
      rcases told e listed with earlier | here
      · exact .inl (known e (kept ▸ earlier))
      · exact .inr (.inl here)
    refine ⟨kept' ▸ whole, fun id mem => ?_⟩
    rcases List.mem_append.1 mem with own | close
    · obtain ⟨a, listed, same⟩ := List.mem_map.1
        (((Notes.foldlM notes_recordOne _ _).noted recording).closings.subset own)
      exact .inl ⟨a, listed, same⟩
    · obtain ⟨p, listed, same, w, winner, e, recorded, last⟩ := closed id close
      exact .inr ⟨p, listed, same, w, winner, last ▸ whole e recorded⟩

theorem TakesAll.told {past : List Moment}
    (takes : TakesAll policy queue b turns progress s next after)
    (known : ∀ e ∈ progress.recorded, e.1 ∈ closings past) :
    ∀ u ∈ turns, ∀ id ∈ closings u.moments, (∃ a ∈ u.group, a.id = id) ∨
      ∃ p ∈ toClose queue b u.operation, p.id = id ∧ ∃ w, b.winner? p = some w ∧
        w.id ∈ closings (past ++ turns.flatMap GroupTurn.moments) := by
  induction takes generalizing past with
  | nil progress s => simp
  | @cons u turns progress middle next s s₁ after first rest ih =>
    obtain ⟨known', own⟩ := first.told known
    rw [List.flatMap_cons, ← List.append_assoc, List.forall_mem_cons]
    refine ⟨fun id closed => ?_, ih known'⟩
    rcases own id closed with mine | ⟨p, listed, same, w, winner, recorded⟩
    · exact .inl mine
    · refine .inr ⟨p, listed, same, w, winner, ?_⟩
      rw [closings_append]
      exact List.mem_append_left _ recorded

/-- No two turns record outcomes for one attempt. -/
theorem TakesAll.own (takes : TakesAll policy queue b turns progress s next after)
    (once : ((turns.flatMap (GroupTurn.toRecord queue b)).map (·.id)).Nodup) (mem : u ∈ turns)
    (listed : a ∈ u.toRecord queue b) (closed : a.id ∈ closings (turns.flatMap GroupTurn.moments)) :
    a.id ∈ closings u.moments := by
  have each : ∀ u ∈ turns, (closings u.moments).Sublist ((u.toRecord queue b).map (·.id)) := by
    intro u mem
    obtain ⟨_, _, _, _, turn⟩ := takes.taken u mem
    exact turn.closings_sublist
  rw [List.map_flatMap, List.nodup_flatMap] at once
  obtain ⟨m, inside, c, recorded⟩ := mem_closings.1 closed
  obtain ⟨u', mem', inside⟩ := List.mem_flatMap.1 inside
  have here : a.id ∈ closings u'.moments := mem_closings.2 ⟨m, inside, c, recorded⟩
  by_cases same : u = u'
  · exact same ▸ here
  · have : Std.Symm (Function.onFun List.Disjoint fun u : GroupTurn =>
        (u.toRecord queue b).map (·.id)) := ⟨fun _ _ apart _ here there => apart there here⟩
    have apart := List.Pairwise.forall once.2 mem mem' same
    exact absurd ((each u' mem').subset here) (apart (List.mem_map_of_mem listed))

/-- A group that is refused gets no outcomes. -/
theorem Takes.unrecorded {e : DomainError} (takes : Takes policy queue b u progress s next after)
    (refused : u.answer = .error e) : closings u.moments = [] := by
  cases takes with
  | refused called => rw [GroupTurn.moments, List.append_nil, closings_sendGroup called]
  | answered => cases refused

/-- The storage is asked to take each outcome of a group that is answered. -/
theorem Takes.requested {g : Answer} (takes : Takes policy queue b u progress s next after)
    (once : ((u.toRecord queue b).map (·.id)).Nodup) (answered : u.answer = .ok g) :
    ∀ a ∈ u.group, (g.completion? a.id = none → a.id ∉ closings u.moments) ∧
      ∀ c, g.completion? a.id = some c → ∃ m ∈ u.recording, m.request = .completeAttempt a.id c ∧
        (m.recorded? = some (a.id, c) ∨ ¬ m.Stored ∧ a.id ∉ closings u.moments) := by
  cases takes with
  | refused => cases answered
  | @answered op group g' t₁ t₂ t₃ _ opened recorded _ _ s₁ s₂ _ called kept reported recording
      closing =>
    obtain rfl : g' = g := Except.ok.inj answered
    intro a listed
    rw [GroupTurn.toRecord, List.map_append, List.nodup_append] at once
    obtain ⟨first, -, apart⟩ := once
    have unclosed : a.id ∉ closings t₃ := fun closed =>
      apart a.id (List.mem_map_of_mem listed) a.id
        (((Notes.foldlM notes_closeOne _ _).noted closing).closings.subset closed) rfl
    have whole : closings (t₁ ++ (⟨s₁, .now, g'.syncedAt⟩ :: (t₂ ++ t₃))) =
        closings t₂ ++ closings t₃ := by
      rw [closings_append, closings_sendGroup called, closings_cons, closings_append]
      rfl
    obtain ⟨unanswered, taken⟩ := requested_record first recording a listed
    rw [GroupTurn.moments, whole, List.mem_append, not_or]
    refine ⟨fun none => ⟨unanswered none, unclosed⟩, fun c some => ?_⟩
    obtain ⟨m, mem, asked, outcome⟩ := taken c some
    refine ⟨m, List.mem_cons_of_mem _ (List.mem_append_left _ mem), asked, ?_⟩
    exact outcome.imp_right fun lost => ⟨lost.1, lost.2, unclosed⟩

end Cycle

/-! ## What fails waits on -/

/-- A failure of the storage is not taken for a shutdown. -/
def Moment.Plain (m : Moment) : Prop :=
  ∀ e ∈ m.fault?, e.isShutdown = false

instance (m : Moment) : Decidable m.Plain :=
  inferInstanceAs (Decidable (∀ e ∈ m.fault?, e.isShutdown = false))

/-- The attempt is as it was, and waits. -/
def Simulation.Store.Retains (s : Store) (a : Attempt) : Prop :=
  s.attempt? a.id = some a ∧ a.isPending = true

namespace Cycle
variable {policy : CallPolicy} {maxCreates : Nat} {department : String}
  {result : Except DomainError CycleReport} {queue : List Attempt} {b : Batch} {u : GroupTurn}
  {turns : List GroupTurn} {progress next : Progress}

/-- An attempt waits on, and so does every update that it superseded. -/
def WaitsOn (queue : List Attempt) (b : Batch) (after : Store) (a : Attempt) : Prop :=
  after.Retains a ∧ ∀ p ∈ queue, p.id ∈ b.superseded → b.winner? p = some a → after.Retains p

/-- The failures of a turn stay where they are: a refused group waits on, and so does an attempt
without an outcome, or whose outcome the storage does not take. All other outcomes are taken. -/
structure GroupTurn.Contained (queue : List Attempt) (b : Batch) (after : Store) (u : GroupTurn) :
    Prop where
  refused : ∀ e, u.answer = .error e → ∀ a ∈ u.group, WaitsOn queue b after a
  unanswered : ∀ g, u.answer = .ok g → ∀ a ∈ u.group, g.completion? a.id = none →
    WaitsOn queue b after a
  answered : ∀ g, u.answer = .ok g → ∀ a ∈ u.group, ∀ c, g.completion? a.id = some c →
    ∃ m ∈ u.recording, m.request = .completeAttempt a.id c ∧
      (m.Stored → after.attempt? a.id = some (a.complete c)) ∧
      (¬ m.Stored → WaitsOn queue b after a)

/-- A group had its turn, and its call ended as the turn says. -/
def GroupTurn.Called (policy : CallPolicy) (u : GroupTurn) : Prop :=
  ∃ s after, Runs (sendGroup policy u.operation u.group) s u.calling
    (u.answer.map fun g => (g.call, g.results)) after

/-- A shutdown aborts the call of a group, with which the cycle ends. -/
def Aborts (policy : CallPolicy) (b : Batch) (t : List Moment) (after : Store) : Prop :=
  ∃ g ∈ b.groups, ∃ early last s e, t = early ++ last ∧
    Runs (sendGroup policy g.1 g.2) s last (.error e) after ∧ Stops last

/-- An attempt of the queue that gets no outcome waits on with the updates that it superseded. -/
theorem TakesAll.waitsOn {s₀ : Store} (distinct : (s₀.attempts.map (·.id)).Nodup)
    (queued : queue = s₀.pending department) (built : b = Batch.build queue maxCreates)
    (takes : TakesAll policy queue b turns progress s next after)
    (all : turns.map GroupTurn.sending = b.groups) (fresh : progress.recorded = [])
    (kept : ∀ a ∈ s₀.attempts, a.id ∉ closings (turns.flatMap GroupTurn.moments) →
      after.attempt? a.id = some a)
    (listed : a ∈ queue) (unclosed : a.id ∉ closings (turns.flatMap GroupTurn.moments)) :
    WaitsOn queue b after a := by
  subst queued built
  have own : ((s₀.pending department).map (·.id)).Nodup :=
    distinct.sublist (List.filter_sublist.map _)
  have retains : ∀ p ∈ s₀.pending department,
      p.id ∉ closings (turns.flatMap GroupTurn.moments) → after.Retains p := by
    intro p listed unclosed
    obtain ⟨mem, pending, -⟩ := Store.mem_pending.1 listed
    exact ⟨kept p mem unclosed, pending⟩
  refine ⟨retains a listed unclosed, fun p mem superseded winner => retains p mem fun closed => ?_⟩
  obtain ⟨m, inside, c, recorded⟩ := mem_closings.1 closed
  obtain ⟨u, turn, inside⟩ := List.mem_flatMap.1 inside
  have here : p.id ∈ closings u.moments := mem_closings.2 ⟨m, inside, c, recorded⟩
  have none : ∀ e ∈ progress.recorded, e.1 ∈ closings [] := by simp [fresh]
  rcases takes.told none u turn p.id here with
    ⟨a', sent, same⟩ | ⟨p', close, same, w, winner', later⟩
  · -- A superseded update is not sent.
    rw [group_of_sending all turn] at sent
    obtain ⟨queued, operation⟩ := Batch.mem_of_mem_group sent
    obtain rfl := Attempt.eq_of_id_eq own queued mem same
    obtain ⟨-, update, out⟩ := (Batch.mem_superseded_iff own mem).1 superseded
    rw [← operation, update] at sent
    exact out sent
  · obtain ⟨-, queued, -⟩ := mem_toClose.1 close
    obtain rfl := Attempt.eq_of_id_eq own queued mem same
    obtain rfl := Option.some.inj (winner.symm.trans winner')
    exact unclosed later

/-- The failures of a turn stay where they are if what gets no outcome in it waits on, and what gets
one has it after the cycle. -/
theorem Takes.contained {last : Store} (takes : Takes policy queue b u progress s next after)
    (once : ((u.toRecord queue b).map (·.id)).Nodup)
    (spared : ∀ a ∈ u.group, a.id ∉ closings u.moments → WaitsOn queue b last a)
    (settled : ∀ a ∈ u.group, ∀ m ∈ u.moments, ∀ c, m.recorded? = some (a.id, c) →
      last.attempt? a.id = some (a.complete c)) : u.Contained queue b last := by
  constructor
  case refused =>
    intro e refused a sent
    refine spared a sent ?_
    rw [takes.unrecorded refused]
    exact List.not_mem_nil
  case unanswered =>
    intro g answered a sent none
    exact spared a sent ((takes.requested once answered a sent).1 none)
  case answered =>
    intro g answered a sent c some
    obtain ⟨m, mem, asked, taken | ⟨fault, unclosed⟩⟩ :=
      (takes.requested once answered a sent).2 c some
    · have stored := Moment.stored_of_recorded taken
      exact ⟨m, mem, asked, fun _ => settled a sent m (List.mem_append_right _ mem) c taken,
        fun fault => absurd stored fault⟩
    · exact ⟨m, mem, asked, fun stored => absurd stored fault, fun _ => spared a sent unclosed⟩

/-- In each turn of a cycle that goes through all of them, what fails waits on. -/
theorem TakesAll.contained (distinct : (s.attempts.map (·.id)).Nodup)
    (run : Runs (Cycle.run policy maxCreates department) s
      (⟨s, .pendingAttempts department, .ok (s.pending department)⟩ ::
        turns.flatMap GroupTurn.moments) result after)
    (takes : TakesAll policy (s.pending department)
      (Batch.build (s.pending department) maxCreates) turns
      (opening (s.pending department) maxCreates department) s next after)
    (all : turns.map GroupTurn.sending = (Batch.build (s.pending department) maxCreates).groups) :
    ∀ u ∈ turns,
      u.Contained (s.pending department) (Batch.build (s.pending department) maxCreates) after := by
  set queue := s.pending department with queued
  set b := Batch.build queue maxCreates with built
  have under : Under True s (toAnswer queue b b.groups) s :=
    under_toAnswer distinct List.filter_sublist
  obtain ⟨once, -, -⟩ := run.due_of_noted (noted_run run) distinct under.once under.waits
  have found : ∀ a ∈ s.attempts, s.attempt? a.id = some a :=
    fun a mem => Attempt.find?_of_mem distinct mem
  have kept : ∀ a ∈ s.attempts, a.id ∉ closings (turns.flatMap GroupTurn.moments) →
      after.attempt? a.id = some a := by
    intro a mem unclosed
    have nothing : outcomeFor? (⟨s, .pendingAttempts department, .ok queue⟩ ::
        turns.flatMap GroupTurn.moments) a.id = none := outcomeFor?_eq_none_iff.2 unclosed
    rw [run.settles (found a mem), nothing]
    rfl
  have apart : ((turns.flatMap (GroupTurn.toRecord queue b)).map (·.id)).Nodup := by
    have same : turns.flatMap (GroupTurn.toRecord queue b) = toAnswer queue b b.groups := by
      rw [toAnswer, ← all, List.flatMap_map]
      rfl
    exact same ▸ under.once
  intro u mem
  obtain ⟨_, _, _, _, turn⟩ := takes.taken u mem
  have listed : ∀ a ∈ u.group, a ∈ queue := by
    rw [group_of_sending all mem]
    exact fun a sent => (Batch.mem_of_mem_group sent).1
  refine turn.contained ?_ (fun a sent unclosed => ?_) fun a sent m inside c taken => ?_
  · rw [List.map_flatMap] at apart
    exact (List.nodup_flatMap.1 apart).1 u mem
  · refine takes.waitsOn distinct queued built all rfl kept (listed a sent) fun closed => ?_
    exact unclosed (takes.own apart mem (List.mem_append_left _ sent) closed)
  · have here : m ∈ turns.flatMap GroupTurn.moments := List.mem_flatMap.2 ⟨u, mem, inside⟩
    rw [run.settles (found a (Store.mem_pending.1 (listed a sent)).1),
      outcomeFor?_of_recorded once (List.mem_cons_of_mem _ here) taken]
    rfl

/-- No call was aborted where all groups have had their turn. -/
theorem TakesAll.not_stops (takes : TakesAll policy queue b turns progress s next after)
    (plain : ∀ m ∈ turns.flatMap GroupTurn.moments, m.Plain) :
    ¬ Stops (turns.flatMap GroupTurn.moments) := by
  induction takes with
  | nil progress s => exact stops_nil
  | @cons u turns progress middle next s s₁ after first rest ih =>
    rw [List.flatMap_cons, List.forall_mem_append] at plain
    rw [List.flatMap_cons, stops_append, first.stops_iff]
    rintro (stops | later)
    · obtain ⟨_, called, unstopped⟩ := first.called
      obtain ⟨e, refused, stopped⟩ :=
        (stops_sendGroup called fun m mem => plain.1 m (List.mem_append_left _ mem)).2 stops
      cases outcome : u.answer with
      | ok g => rw [outcome] at refused; cases refused
      | error e' =>
        rw [outcome] at refused
        obtain rfl : e' = e := Except.error.inj refused
        rw [unstopped e' outcome] at stopped
        cases stopped
    · exact ih plain.2 later

/-- When a cycle fails, and what fails within it. It fails if the queue cannot be read, and then
nothing else is done, or if a shutdown aborts the call of a group; if no failure of the storage is
taken for a shutdown, then it fails in no other way. Otherwise every group has its turn, and the
report lists those that are refused. Where identifiers are distinct, what fails in a turn waits
on. -/
theorem failures_contained (run : Runs (Cycle.run policy maxCreates department) s t result after)
    (plain : ∀ m ∈ t, m.Plain) :
    ((∃ e, result = .error e) ↔
        (∃ e, t = [⟨s, .pendingAttempts department, .error e⟩] ∧ after = s) ∨
          Aborts policy (Batch.build (s.pending department) maxCreates) t after) ∧
      ∀ report, result = .ok report → ∃ turns : List GroupTurn,
        t = ⟨s, .pendingAttempts department, .ok (s.pending department)⟩ ::
            turns.flatMap GroupTurn.moments ∧
          turns.map GroupTurn.sending =
            (Batch.build (s.pending department) maxCreates).groups ∧
          report.failedGroups = turns.filterMap GroupTurn.failure? ∧
          (∀ u ∈ turns, u.Called policy) ∧
          ((s.attempts.map (·.id)).Nodup → ∀ u ∈ turns, u.Contained (s.pending department)
            (Batch.build (s.pending department) maxCreates) after) := by
  obtain ⟨e, rfl, kept, rfl⟩ | ⟨rest, rfl, sent⟩ := runs_run run
  · exact ⟨⟨fun _ => .inl ⟨e, rfl, kept⟩, fun _ => ⟨e, rfl⟩⟩, nofun⟩
  have later := (List.forall_mem_cons.1 plain).2
  cases ending_sendGroups sent with
  | @completed turns next _ takes all =>
    refine ⟨⟨nofun, ?_⟩, ?_⟩
    · rintro (⟨e, read, -⟩ | ⟨g, -, early, last, s', e, split, -, stops⟩)
      · cases read
      · have whole : Stops (early ++ last) := stops_append.2 (.inr stops)
        rw [← split, stops_cons] at whole
        exact absurd (whole.resolve_left fun none => none trivial) (takes.not_stops later)
    · rintro _ ⟨⟩
      refine ⟨turns, rfl, all, congrArg Prod.snd takes.heading, ?_, ?_⟩
      · intro u mem
        obtain ⟨_, _, _, _, turn⟩ := takes.taken u mem
        obtain ⟨_, called, -⟩ := turn.called
        exact ⟨_, _, called⟩
      · exact fun distinct => takes.contained distinct run all
  | @aborted turns _ middle _ op group rest t e takes some called stopped =>
    refine ⟨⟨fun _ => .inr ?_, fun _ => ⟨e, rfl⟩⟩, nofun⟩
    refine ⟨(op, group), ?_, _ :: turns.flatMap GroupTurn.moments, t, middle, e, rfl, called, ?_⟩
    · rw [some]
      exact List.mem_append_right _ List.mem_cons_self
    · exact (stops_sendGroup called fun m mem => later m (List.mem_append_right _ mem)).1
        ⟨e, rfl, stopped⟩

end Cycle

namespace Simulation.World

/-- The sample with storage that fails to take the call of the creates and the first outcome. -/
def clogged : World :=
  { World.sample with
    faults := [(.insertCall, some ⟨.database, "locked"⟩),
      (.completeAttempt, some ⟨.database, "locked"⟩)] }

/-- A Planner that cannot be reached by the calls of these operations. -/
def unreachable (ops : List Operation) : CallKind → List Reply := fun kind =>
  if ops.any fun op => kind = .events op then
    [{ Reply.standard with failure := some (.transport "reset") }]
  else []

/-- A delete and a create of one event with the same identifier, and a Planner that cannot be
reached by the calls of some operations. -/
def doubled (ops : List Operation) : World :=
  let created := atSecond 1000
  let attempt (op : Operation) : Attempt :=
    .pending (.ofNat 11) (.ofNat 1) op ⟨created, created⟩ created
  Session.world (atSecond 2000)
    (.ofEvents [⟨.ofNat 1, "rooms", "item", false, created, [attempt .delete, attempt .create]⟩] [])
    ⟨unreachable ops, [], []⟩ [] false

end Simulation.World

namespace Cycle

/-- The creates are refused, and the outcome of the update is not taken. -/
theorem failures_contained_clogged : ∃ (report : CycleReport) (turns : List GroupTurn)
    (after : Store),
    Runs (Cycle.run World.samplePolicy 10 "rooms") World.clogged.store
      (World.clogged.moments (Cycle.run World.samplePolicy 10 "rooms")) (.ok report) after ∧
    turns.map GroupTurn.sending = (Batch.build (World.clogged.store.pending "rooms") 10).groups ∧
    turns.filterMap GroupTurn.failure? = [⟨.create, 1, ⟨.database, "locked"⟩⟩] ∧
    ∀ u ∈ turns, u.Contained (World.clogged.store.pending "rooms")
      (Batch.build (World.clogged.store.pending "rooms") 10) after := by
  have plain : ∀ m ∈ World.clogged.moments (Cycle.run World.samplePolicy 10 "rooms"),
      m.Plain := by
    decide +kernel
  let report : CycleReport :=
    ⟨"rooms", 2, 1, 0, 0, 0, 0, 0, 0, [], [], [⟨.create, 1, ⟨.database, "locked"⟩⟩]⟩
  obtain ⟨run, -⟩ := World.runs_of_result? World.clogged
    (Cycle.run World.samplePolicy 10 "rooms") rfl
    (show _ = some (Except.ok report) by decide +kernel)
  obtain ⟨turns, -, all, failed, -, contained⟩ := (failures_contained run plain).2 report rfl
  exact ⟨report, turns, _, run, all, failed.symm, contained (by decide +kernel)⟩

/-- Where two attempts have one identifier, the answer to one of them closes the other, even if the
group of that one is refused. -/
theorem exists_closed_while_refused : ¬ ∀ (policy : CallPolicy) (maxCreates : Nat)
    (department : String) (s after : Store) (t : List Moment) (report : CycleReport),
      Runs (Cycle.run policy maxCreates department) s t (.ok report) after →
        (∀ m ∈ t, m.Plain) → ∀ f ∈ report.failedGroups,
          ∀ a ∈ (Batch.build (s.pending department) maxCreates).group f.operation,
            a ∈ after.attempts := by
  intro kept
  have plain : ∀ m ∈ (World.doubled [.delete]).moments (Cycle.run World.samplePolicy 10 "rooms"),
      m.Plain := by
    decide +kernel
  let failure : GroupFailure := ⟨.delete, 1, (PlannerError.transport "reset").toDomain⟩
  let report : CycleReport := ⟨"rooms", 1, 1, 0, 0, 0, 0, 0, 0, [], [], [failure]⟩
  obtain ⟨run, -⟩ := World.runs_of_result? (World.doubled [.delete])
    (Cycle.run World.samplePolicy 10 "rooms") rfl
    (show _ = some (Except.ok report) by decide +kernel)
  have stays := kept _ _ _ _ _ _ _ run plain failure List.mem_cons_self
    (World.doubled [.delete]).store.attempts[0] (by decide +kernel)
  revert stays
  decide +kernel

end Cycle
end CalendarSync
