import CalendarSync.Proofs.Conclusion
import CalendarSync.Proofs.Hearing
import CalendarSync.Proofs.Isolation

/-!
# Groups do not influence each other

What the Planner replies to the calls of one operation, and what the clock shows in its turn, decide
what a cycle does with the attempts of this operation. The replies to the other groups do not
matter, whether they come before or after.
-/

namespace CalendarSync
set_option autoImplicit false
open Program Simulation

variable {s s' after after' : Store} {t t' : List Moment} {a : Attempt} {op : Operation}

/-! ## New rows -/

/-- The new attempts that the storage takes, in order. -/
def additions (t : List Moment) : List Attempt :=
  t.filterMap Moment.added?

theorem additions_append (t t' : List Moment) : additions (t ++ t') = additions t ++ additions t' :=
  List.filterMap_append

/-- New attempts stand behind the old ones, if outcomes are recorded for old ones only. -/
theorem Program.Runs.behind {α : Type} {p : Program α} {value : α} (run : Runs p s t value after)
    {old new : List Attempt} (rows : s.attempts = old ++ new)
    (known : ∀ id ∈ closings t, id ∈ old.map (·.id)) :
    ∃ old', old'.map (·.id) = old.map (·.id) ∧ after.attempts = old' ++ (new ++ additions t) := by
  induction run generalizing old new with
  | done value s => exact ⟨old, rfl, by rw [rows]; simp [additions]⟩
  | @ask r next s middle after answer t value answered rest ih =>
    rw [closings_cons, List.forall_mem_append] at known
    obtain ⟨here, later⟩ := known
    rw [← List.singleton_append, additions_append, ← List.append_assoc]
    cases Moment.leads_of_answers answered with
    | kept same leaves =>
      have none : additions [(⟨s, r, answer⟩ : Moment)] = [] := by
        simp [additions, leaves.2]
      rw [none, List.append_nil]
      exact ih (same.trans rows) later
    | @added a rows' added unrecorded =>
      have one : additions [(⟨s, r, answer⟩ : Moment)] = [a] := by
        simp [additions, added]
      rw [one]
      refine ih ?_ later
      rw [rows', rows, List.append_assoc]
    | @recorded id c wrote recorded =>
      have none : additions [(⟨s, r, answer⟩ : Moment)] = [] := by
        simp [additions, Moment.added?_eq_none_of_recorded recorded]
      have wrote : s.completeAttempt id c = .ok middle := wrote
      obtain ⟨row, listed, same⟩ := List.mem_map.1
        (here id (mem_closings.2 ⟨_, List.mem_singleton_self _, c, recorded⟩))
      rw [none, List.append_nil]
      cases changed : changeFirst? (fun a => decide (a.id = id)) (·.complete c) old with
      | none =>
        have other := changeFirst?_eq_none_iff.1 changed row listed
        simp [same] at other
      | some old₁ =>
        rw [Store.completeAttempt, rows, changeFirst?_append changed] at wrote
        obtain rfl := Except.ok.inj wrote
        have ids : old₁.map (·.id) = old.map (·.id) := by
          obtain ⟨before, row, rest, rfl, -, -, rfl⟩ := changeFirst?_eq_some_iff.1 changed
          simp
        obtain ⟨old', same, behind⟩ := ih rfl (ids ▸ later)
        exact ⟨old', same.trans ids, behind⟩

/-! ## The turn of an operation -/

/-- The moments from the opening of an operation's call up to that of the next call. -/
def turnOf (op : Operation) (t : List Moment) : List Moment :=
  (t.dropWhile fun m => m.opened? ≠ some op).tail.takeWhile fun m => m.opened?.isNone

/-- What the clock shows in the turn of an operation. -/
def readingsOf (op : Operation) (t : List Moment) : List Timestamp :=
  (turnOf op t).filterMap Moment.reading?

theorem readingsOf_eq {before inside : List Moment} {m : Moment} (rest : List Moment)
    (other : ∀ m ∈ before, m.opened? ≠ some op) (opening : m.opened? = some op)
    (unopened : ∀ m ∈ inside, m.opened? = none) :
    ∃ more, readingsOf op (before ++ m :: (inside ++ rest)) =
      inside.filterMap Moment.reading? ++ more := by
  refine ⟨(rest.takeWhile fun m => m.opened?.isNone).filterMap Moment.reading?, ?_⟩
  rw [readingsOf, turnOf, List.dropWhile_append_of_pos (by simpa using other),
    List.dropWhile_cons_of_neg (by simpa using opening), List.tail_cons,
    List.takeWhile_append_of_pos (by simpa using unopened), List.filterMap_append]

namespace Cycle
variable {policy : CallPolicy} {queue group : List Attempt} {b : Batch}
  {progress next : Progress} {u u' : GroupTurn} {turns : List GroupTurn} {g : Answer}

/-- A call opens one record, after which the clock is read once. -/
theorem Delivers.opening {result : Except DomainError (Uuid × List ItemResult)}
    (delivers : Delivers policy op group t result) :
    ∃ head m tail endedAt, t = head ++ m :: tail ∧ (∀ m ∈ head, m.opened? = none) ∧
      m.opened? = some op ∧ (∀ m ∈ tail, m.opened? = none) ∧
      tail.filterMap Moment.reading? = [endedAt] := by
  cases delivers with
  | @called _ _ _ _ _ endedAt calls _ _ _ run =>
    obtain ⟨-, calling, -⟩ := runs_perform run
    have silent : calls.filterMap Moment.reading? = [] :=
      List.filterMap_eq_nil_iff.2 fun m mem => (calling m mem).opened?.2
    refine ⟨_, _, _, endedAt, rfl, ?_, rfl, ?_, ?_⟩
    · simp [Moment.opened?]
    · refine List.forall_mem_append.2 ⟨fun m mem => (calling m mem).opened?.1, ?_⟩
      simp [Moment.opened?]
    · rw [List.filterMap_append, silent]
      rfl

/-- The call of a turn is delivered if the storage does not fail. -/
theorem Takes.delivers (takes : Takes policy queue b u progress s next after)
    (stored : ∀ m ∈ u.moments, m.Stored) : Delivers policy u.operation u.group u.calling
      (u.answer.map fun g => (g.call, g.results)) := by
  obtain ⟨_, called, -⟩ := takes.called
  exact delivers_sendGroup called fun m mem => stored m (List.mem_append_left _ mem)

/-- Recording stays with the table of attempts. -/
theorem Takes.recording_local (takes : Takes policy queue b u progress s next after) :
    ∀ m ∈ u.recording, m.request.isLocal [.attempts] = true := by
  cases takes with
  | refused => simp
  | answered called kept reported recording closing =>
    exact List.forall_mem_cons.2 ⟨rfl, List.forall_mem_append.2
      ⟨only_recordAll.moments recording, only_closeAll.moments closing⟩⟩

/-- What is exchanged in a turn is exchanged in its call. -/
theorem Takes.exchanges_moments (takes : Takes policy queue b u progress s next after)
    (op : Operation) : exchanges op u.moments = exchanges op u.calling := by
  have nothing : exchanges op u.recording = [] := List.filterMap_eq_nil_iff.2 fun m mem =>
    Moment.exchange?_of_isLocal (takes.recording_local m mem) op
  rw [GroupTurn.moments, exchanges_append, nothing, List.append_nil]

/-- What is added where the answer for an attempt is recorded: the attempt is proposed again if it
fails for now, and dated then. -/
theorem additions_recordOne
    (run : Runs (recordOne g.call g.results g.syncedAt progress a) s t next after)
    (stored : ∀ m ∈ t, m.Stored) :
    List.Forall₂ Attempt.Repeats ([a].filter fun a => a.fails (g.completion? a.id))
        (additions t) ∧
      t.filterMap Moment.reading? = (additions t).map (·.createdAt) := by
  have recording := runs_recordOne run
  generalize next.recorded = recorded at recording
  cases recording with
  | unanswered unknown =>
    simp [additions, Attempt.fails, Answer.completion?_of_unknown unknown]
  | lost e found => simp [Moment.Stored, Moment.fault?] at stored
  | closed found wrote lasting =>
    refine ⟨?_, rfl⟩
    simp [additions, Attempt.fails, Answer.completion?_of_lastFor? found, lasting, Moment.added?]
  | @again r _ _ createdAt id answer found wrote transient proposed =>
    cases answer with
    | error e => simp [Moment.Stored, Moment.fault?] at stored
    | ok u =>
      have failed : ([a].filter fun a => a.fails (g.completion? a.id)) = [a] := by
        simp [Attempt.fails, Answer.completion?_of_lastFor? found, transient]
      rw [failed]
      exact ⟨.cons ⟨id, createdAt, rfl⟩ .nil, rfl⟩

theorem additions_record
    (run : Runs (group.foldlM (recordOne g.call g.results g.syncedAt) progress) s t next after)
    (stored : ∀ m ∈ t, m.Stored) :
    List.Forall₂ Attempt.Repeats (group.filter fun a => a.fails (g.completion? a.id))
        (additions t) ∧
      t.filterMap Moment.reading? = (additions t).map (·.createdAt) := by
  induction group generalizing s t progress with
  | nil =>
    obtain ⟨rfl, -, -⟩ := runs_pure_iff.1 run
    exact ⟨.nil, rfl⟩
  | cons a group ih =>
    rw [List.foldlM_cons] at run
    obtain ⟨middle, s₁, first, rest, rfl, head, tail⟩ := runs_bind_iff.1 run
    rw [List.forall_mem_append] at stored
    obtain ⟨here, clock⟩ := additions_recordOne head stored.1
    obtain ⟨later, clock'⟩ := ih tail stored.2
    rw [← List.singleton_append, List.filter_append, additions_append, List.filterMap_append,
      List.map_append, clock, clock']
    exact ⟨List.rel_append here later, rfl⟩

/-- Closing superseded updates adds nothing, and does not look at the clock. -/
theorem silent_closeAll {l : List Attempt}
    (run : Runs (l.foldlM (closeOne b) progress) s t next after) :
    additions t = [] ∧ t.filterMap Moment.reading? = [] := by
  have each : ∀ m ∈ t, m.added? = none ∧ m.reading? = none := by
    refine (runs_foldlM (fun _ _ _ => True) ?_ trivial run fun _ _ => trivial).2
    intro a l progress s t next after _ run _
    refine ⟨trivial, ?_⟩
    cases (runs_closeOne run).1 with
    | kept unknown => simp
    | lost e found => exact List.forall_mem_singleton.2 ⟨rfl, rfl⟩
    | closed found wrote => exact List.forall_mem_singleton.2 ⟨rfl, rfl⟩
  exact ⟨List.filterMap_eq_nil_iff.2 fun m mem => (each m mem).1,
    List.filterMap_eq_nil_iff.2 fun m mem => (each m mem).2⟩

/-- The call of a group adds nothing. -/
theorem additions_sendGroup {result : Except DomainError (Uuid × List ItemResult)}
    (run : Runs (sendGroup policy op group) s t result after) : additions t = [] := by
  obtain ⟨-, sending, -⟩ := runs_sendGroup run
  exact List.filterMap_eq_nil_iff.2 fun m mem => (sending m mem).idle.leavesAttempts.2

/-- What a turn adds: nothing if its group is refused. -/
theorem Takes.additions_refused {e : DomainError}
    (takes : Takes policy queue b u progress s next after) (refused : u.answer = .error e) :
    additions u.moments = [] := by
  cases takes with
  | refused called => rw [GroupTurn.moments, List.append_nil, additions_sendGroup called]
  | answered => cases refused

/-- What a turn adds if its group is answered: the attempts that fail for now, dated by the clock
after it has dated the answer. -/
theorem Takes.additions_answered (takes : Takes policy queue b u progress s next after)
    (answered : u.answer = .ok g) (stored : ∀ m ∈ u.moments, m.Stored) :
    List.Forall₂ Attempt.Repeats (u.group.filter fun a => a.fails (g.completion? a.id))
        (additions u.moments) ∧
      u.recording.filterMap Moment.reading? =
        g.syncedAt :: (additions u.moments).map (·.createdAt) := by
  cases takes with
  | refused => cases answered
  | @answered op group g' t₁ t₂ t₃ _ opened recorded _ _ s₁ s₂ _ called kept reported recording
      closing =>
    obtain rfl : g' = g := Except.ok.inj answered
    simp only [GroupTurn.moments, List.forall_mem_append, List.forall_mem_cons] at stored
    obtain ⟨repeats, dates⟩ := additions_record recording stored.2.2.1
    obtain ⟨nothing, silent⟩ := silent_closeAll closing
    have whole : additions (t₁ ++ ⟨s₁, .now, g'.syncedAt⟩ :: (t₂ ++ t₃)) = additions t₂ := by
      rw [additions_append, additions_sendGroup called, List.nil_append]
      change additions (t₂ ++ t₃) = _
      rw [additions_append, nothing, List.append_nil]
    rw [GroupTurn.moments, whole]
    refine ⟨repeats, ?_⟩
    change g'.syncedAt :: (t₂ ++ t₃).filterMap Moment.reading? = _
    rw [List.filterMap_append, silent, List.append_nil, dates]

/-- A turn adds attempts of its own operation. -/
theorem Takes.operation_of_added (takes : Takes policy queue b u progress s next after)
    (stored : ∀ m ∈ u.moments, m.Stored) (own : ∀ a ∈ u.group, a.operation = u.operation) :
    ∀ r ∈ additions u.moments, r.operation = u.operation := by
  cases answered : u.answer with
  | error e => simp [takes.additions_refused answered]
  | ok g =>
    obtain ⟨repeats, -⟩ := takes.additions_answered answered stored
    exact operation_of_repeats repeats fun a failed => own a (List.mem_of_mem_filter failed)

end Cycle

/-! ## Two turns of one group -/

/-- The same answer under another call. -/
def Answer.recalled (g : Answer) (call : Uuid) : Answer :=
  { g with call }

section Recalled
variable {g : Answer} {call id : Uuid} {b : Batch}

theorem Answer.completion?_recalled :
    (g.recalled call).completion? id = (g.completion? id).map ({ · with call := some call }) := by
  unfold completion?
  rw [Option.map_map]
  congr 1
  funext r
  simp only [recalled, Function.comp_apply, ItemResult.completion]
  split <;> rfl

theorem Answer.call_of_completion? {c : Completion} (completion : g.completion? id = some c) :
    c.call = some g.call := by
  obtain ⟨r, -, rfl⟩ := Option.map_eq_some_iff.1 completion
  exact Cycle.call_completion r g.syncedAt g.call

theorem Attempt.fails_recalled :
    a.fails ((g.recalled call).completion? id) = a.fails (g.completion? id) := by
  rw [Answer.completion?_recalled]
  cases g.completion? id <;> rfl

theorem Batch.outcomeIn?_recalled : b.outcomeIn? (g.recalled call) a =
    (b.outcomeIn? g a).map ({ · with call := some call }) := by
  unfold outcomeIn?
  split
  · exact Answer.completion?_recalled
  · split
    · rw [Option.map_bind]
      congr 1
      funext w
      exact Answer.completion?_recalled
    · rfl

theorem Batch.call_of_outcomeIn? {c : Completion} (outcome : b.outcomeIn? g a = some c) :
    c.call = some g.call := by
  unfold outcomeIn? at outcome
  split at outcome
  · exact Answer.call_of_completion? outcome
  · split at outcome
    · obtain ⟨w, -, completion⟩ := Option.bind_eq_some_iff.1 outcome
      exact Answer.call_of_completion? completion
    · cases outcome

end Recalled

/-- The attempts differ at most in the call that their outcomes are from. -/
def Attempt.Recalled (call call' : Uuid) (r r' : Attempt) : Prop :=
  r' = r ∨ r.call = some call ∧ r' = { r with call := some call' }

theorem Attempt.recalled_settle {call call' : Uuid} {outcome : Option Completion}
    (named : ∀ c, outcome = some c → c.call = some call) :
    Recalled call call' (a.settle outcome)
      (a.settle (outcome.map ({ · with call := some call' }))) := by
  cases outcome with
  | none => exact .inl rfl
  | some c => exact .inr ⟨named c rfl, rfl⟩

/-- The attempts differ in their identifiers only. -/
def Attempt.Renamed (r r' : Attempt) : Prop :=
  r' = { r with id := r'.id }

/-- Attempts that propose the same again at the same times. -/
theorem Attempt.renamed_of_repeats {l more more' : List Attempt}
    (repeats : List.Forall₂ Attempt.Repeats l more)
    (repeats' : List.Forall₂ Attempt.Repeats l more')
    (dates : more.map (·.createdAt) = more'.map (·.createdAt)) :
    List.Forall₂ Renamed more more' := by
  induction repeats generalizing more' with
  | nil =>
    cases repeats'
    exact .nil
  | cons first rest ih =>
    cases repeats' with
    | cons first' rest' =>
      obtain ⟨id, createdAt, rfl⟩ := first
      obtain ⟨id', createdAt', rfl⟩ := first'
      rw [List.map_cons, List.map_cons, List.cons_eq_cons] at dates
      obtain ⟨same, later⟩ := dates
      obtain rfl : createdAt = createdAt' := same
      exact .cons rfl (ih rest' later)

namespace Cycle
variable {policy : CallPolicy} {queue group : List Attempt} {b : Batch}
  {progress next progress' next' : Progress} {u u' : GroupTurn} {g : Answer}

/-- Two calls come to the same: both have no answer, or both have the same, each under its own
call. -/
inductive Corresponds : Option Answer → Option Answer → Prop where
  | unanswered : Corresponds none none
  | answered (g : Answer) (call : Uuid) : Corresponds (some g) (some (g.recalled call))

/-- Two turns of a group that hear the same, and see the same on the clock, as far as both go. -/
theorem Takes.corresponds {endedAt endedAt' : Timestamp} {more more' : List Timestamp}
    (takes : Takes policy queue b u progress s next after)
    (takes' : Takes policy queue b u' progress' s' next' after') (same : u.sending = u'.sending)
    (stored : ∀ m ∈ u.moments, m.Stored) (stored' : ∀ m ∈ u'.moments, m.Stored)
    (running : ∀ m ∈ u.moments, m.Running) (running' : ∀ m ∈ u'.moments, m.Running)
    (replies : Concur (repliesTo u.operation u.calling) (repliesTo u.operation u'.calling))
    (readings : Concur (endedAt :: (u.recording.filterMap Moment.reading? ++ more))
      (endedAt' :: (u'.recording.filterMap Moment.reading? ++ more'))) :
    Corresponds u.answer.toOption u'.answer.toOption ∧ exchanges u.operation u.calling =
        exchanges u.operation u'.calling ∧
      List.Forall₂ Attempt.Renamed (additions u.moments) (additions u'.moments) := by
  obtain ⟨operation, group⟩ := Prod.mk.inj same
  have delivers' := takes'.delivers stored'
  rw [← operation, ← group] at delivers'
  obtain ⟨answers, heard⟩ := (takes.delivers stored).unique delivers'
    (fun m mem => running m (List.mem_append_left _ mem))
    (fun m mem => running' m (List.mem_append_left _ mem)) replies
  cases answer : u.answer with
  | error e =>
    cases answer' : u'.answer with
    | ok g' => rw [answer, answer'] at answers; cases answers
    | error e' =>
      refine ⟨.unanswered, heard, ?_⟩
      rw [takes.additions_refused answer, takes'.additions_refused answer']
      exact .nil
  | ok g =>
    cases answer' : u'.answer with
    | error e' => rw [answer, answer'] at answers; cases answers
    | ok g' =>
      obtain ⟨call, syncedAt, results⟩ := g'
      rw [answer, answer'] at answers
      obtain rfl : g.results = results := Except.ok.inj answers
      obtain ⟨repeats, dates⟩ := takes.additions_answered answer stored
      obtain ⟨repeats', dates'⟩ := takes'.additions_answered answer' stored'
      rw [dates, dates', concur_cons, List.cons_append, List.cons_append, concur_cons] at readings
      obtain ⟨-, synced, later⟩ := readings
      obtain rfl : g.syncedAt = syncedAt := synced
      change List.Forall₂ _ (u'.group.filter fun a =>
        a.fails ((g.recalled call).completion? a.id)) _ at repeats'
      simp only [Attempt.fails_recalled, ← group] at repeats'
      have length : (additions u.moments).length = (additions u'.moments).length :=
        repeats.length_eq.symm.trans repeats'.length_eq
      refine ⟨.answered g call, heard, Attempt.renamed_of_repeats repeats repeats' ?_⟩
      exact later.eq_of_append (by rw [List.length_map, List.length_map, length])

/-! ## The table after the turns -/

/-- The answer that an operation gets in one of the turns. -/
def answerTo (turns : List GroupTurn) (op : Operation) : Option Answer :=
  turns.findSome? fun u => if u.operation = op then u.answer.toOption else none

theorem answerTo_eq_none {turns : List GroupTurn} (other : ∀ u ∈ turns, u.operation ≠ op) :
    answerTo turns op = none :=
  List.findSome?_eq_none_iff.2 fun u mem => if_neg (other u mem)

theorem answerTo_append_cons {before later : List GroupTurn}
    (first : ∀ v ∈ before, v.operation ≠ u.operation)
    (last : ∀ v ∈ later, v.operation ≠ u.operation) :
    answerTo (before ++ u :: later) u.operation = u.answer.toOption := by
  have none : answerTo before u.operation = .none := answerTo_eq_none first
  have none' : answerTo later u.operation = .none := answerTo_eq_none last
  rw [answerTo] at none none' ⊢
  rw [List.findSome?_append, none, Option.none_or, List.findSome?_cons, if_pos rfl, none']
  cases u.answer.toOption <;> rfl

theorem answerTo_cons_of_ne {turns : List GroupTurn} (other : u.operation ≠ op) :
    answerTo (u :: turns) op = answerTo turns op := by
  rw [answerTo, List.findSome?_cons, if_neg other]
  rfl

section Settled
variable {s₀ : Store} {done : Uuid → Option Completion} {new : List Attempt} {maxCreates : Nat}
  {turns : List GroupTurn}

/-- The table after one turn with storage that does not fail. -/
theorem Takes.settled (settled : Settled s₀ done new s)
    (distinct : (s₀.attempts.map (·.id)).Nodup) (sub : queue.Sublist s₀.attempts)
    (takes : Takes policy queue (Batch.build queue maxCreates) u progress s next after)
    (own : u.group = (Batch.build queue maxCreates).group u.operation)
    (unrecorded : ∀ a ∈ s₀.attempts, a.operation = u.operation →
      progress.recorded.lookup a.id = none)
    (stored : ∀ m ∈ u.moments, m.Stored) :
    ∃ done' more, Settled s₀ done' (new ++ more) after ∧
      (∀ a ∈ s₀.attempts, done' a.id = (if a.operation = u.operation then
        u.answer.toOption.bind fun g => (Batch.build queue maxCreates).outcomeIn? g a
        else none).or (done a.id)) ∧
      ∀ a ∈ s₀.attempts, a.operation ≠ u.operation →
        next.recorded.lookup a.id = progress.recorded.lookup a.id := by
  cases takes with
  | refused called unstopped kept reported =>
    obtain ⟨alike, -⟩ := runs_sendGroup called
    refine ⟨done, [], ?_, fun a mem => ?_, fun a mem other => by rw [kept]⟩
    · rw [List.append_nil]
      exact settled.alike alike
    · simp [Except.toOption]
  | @answered op group g t₁ t₂ t₃ _ opened recorded _ _ s₁ s₂ _ called kept reported recording
      closing =>
    obtain ⟨alike, -⟩ := runs_sendGroup called
    obtain rfl : group = (Batch.build queue maxCreates).group op := own
    simp only [GroupTurn.moments, List.forall_mem_append, List.forall_mem_cons] at stored
    obtain ⟨done', more, settled', outcomes, -, kept', -⟩ :=
      (settled.alike alike).answer distinct sub (kept ▸ unrecorded) recording closing
        (List.forall_mem_append.2 stored.2.2)
    refine ⟨done', more, settled', outcomes, fun a mem other => ?_⟩
    rw [kept' a mem other, kept]

/-- The table after turns with storage that does not fail. -/
theorem TakesAll.settled (settled : Settled s₀ done new s)
    (distinct : (s₀.attempts.map (·.id)).Nodup) (sub : queue.Sublist s₀.attempts)
    (takes : TakesAll policy queue (Batch.build queue maxCreates) turns progress s next after)
    (own : ∀ u ∈ turns, u.group = (Batch.build queue maxCreates).group u.operation)
    (once : (turns.map (·.operation)).Nodup)
    (unrecorded : ∀ a ∈ s₀.attempts, a.operation ∈ turns.map (·.operation) →
      progress.recorded.lookup a.id = none)
    (stored : ∀ m ∈ turns.flatMap GroupTurn.moments, m.Stored) :
    ∃ done' more, Settled s₀ done' (new ++ more) after ∧ ∀ a ∈ s₀.attempts, done' a.id =
      ((Batch.build queue maxCreates).outcome? (answerTo turns) a).or (done a.id) := by
  induction takes generalizing done new with
  | nil progress s => exact ⟨done, [], by rwa [List.append_nil], fun a mem => rfl⟩
  | @cons u turns progress middle next s s₁ after first rest ih =>
    rw [List.flatMap_cons, List.forall_mem_append] at stored
    rw [List.forall_mem_cons] at own
    rw [List.map_cons, List.nodup_cons] at once
    have apart : ∀ v ∈ turns, v.operation ≠ u.operation :=
      fun v mem same => once.1 (same ▸ List.mem_map_of_mem mem)
    have here : answerTo ([] ++ u :: turns) u.operation = u.answer.toOption :=
      answerTo_append_cons (List.forall_mem_nil _) apart
    have fresh : ∀ a ∈ s₀.attempts, a.operation = u.operation →
        progress.recorded.lookup a.id = none :=
      fun a mem same => unrecorded a mem (same ▸ List.mem_cons_self)
    obtain ⟨done₁, more₁, settled₁, outcomes₁, kept⟩ :=
      first.settled settled distinct sub own.1 fresh stored.1
    have unrecorded' : ∀ a ∈ s₀.attempts, a.operation ∈ turns.map (·.operation) →
        middle.recorded.lookup a.id = none := by
      intro a mem later
      rw [kept a mem fun same => once.1 (same ▸ later)]
      exact unrecorded a mem (List.mem_cons_of_mem _ later)
    obtain ⟨done₂, more₂, settled₂, outcomes₂⟩ := ih settled₁ own.2 once.2 unrecorded' stored.2
    refine ⟨done₂, more₁ ++ more₂, by rwa [← List.append_assoc], fun a mem => ?_⟩
    rw [outcomes₂ a mem, outcomes₁ a mem, Batch.outcome?, Batch.outcome?]
    by_cases same : a.operation = u.operation
    · rw [same, ← List.nil_append (u :: turns), here, answerTo_eq_none apart, Option.bind_none,
        Option.none_or, if_pos rfl]
    · rw [answerTo_cons_of_ne (Ne.symm same), if_neg same, Option.none_or]

end Settled

/-- A cycle that went through the turns of all groups, with storage that did not fail. -/
structure Passage (policy : CallPolicy) (queue : List Attempt) (b : Batch) (s : Store)
    (turns : List GroupTurn) (t : List Moment) (after : Store) : Prop where
  taken : ∀ u ∈ turns, Taken policy queue b u
  all : turns.map GroupTurn.sending = b.groups
  stored : ∀ m ∈ turns.flatMap GroupTurn.moments, m.Stored
  running : ∀ m ∈ turns.flatMap GroupTurn.moments, m.Running
  moments : ∃ department queue, t =
    ⟨s, .pendingAttempts department, .ok queue⟩ :: turns.flatMap GroupTurn.moments
  rows : after.attempts =
    (s.attempts.map fun a => a.settle (b.outcome? (answerTo turns) a)) ++ additions t

theorem passage_run {maxCreates : Nat} {department : String} {report : CycleReport}
    (distinct : (s.attempts.map (·.id)).Nodup)
    (run : Runs (Cycle.run policy maxCreates department) s t (.ok report) after)
    (stored : ∀ m ∈ t, m.Stored) :
    ∃ turns, Passage policy (s.pending department) (Batch.build (s.pending department) maxCreates)
      s turns t after := by
  have under : Under True s (toAnswer (s.pending department)
      (Batch.build (s.pending department) maxCreates)
      (Batch.build (s.pending department) maxCreates).groups) s :=
    under_toAnswer distinct List.filter_sublist
  have known : ∀ id ∈ closings t, id ∈ s.attempts.map (·.id) := by
    intro id closed
    obtain ⟨a, listed, rfl⟩ := List.mem_map.1 ((noted_run run).closings.subset closed)
    exact List.mem_map_of_mem (under.waits a listed).1
  obtain ⟨old, ids, behind⟩ := run.behind (List.append_nil _).symm known
  obtain ⟨e, -, -, failed⟩ | ⟨rest, rfl, sent⟩ := runs_run run
  · cases failed
  cases ending_sendGroups sent with
  | @completed turns next _ takes all =>
    have later := (List.forall_mem_cons.1 stored).2
    have plain : ∀ m ∈ turns.flatMap GroupTurn.moments, m.Plain := by
      intro m mem e fault
      rw [later m mem] at fault
      cases fault
    have groups : turns.map (·.operation) =
        (Batch.build (s.pending department) maxCreates).groups.map Prod.fst := by
      rw [← all, List.map_map]
      rfl
    have start : Settled s (fun _ => none) [] s :=
      ⟨by rw [List.append_nil]; exact (List.map_id s.attempts).symm, rfl⟩
    have sub : (s.pending department).Sublist s.attempts := List.filter_sublist
    obtain ⟨done, more, settled, outcomes⟩ := takes.settled start distinct sub
      (fun u mem => group_of_sending all mem)
      (groups ▸ Batch.nodup_groups _) (fun _ _ _ => rfl) later
    have rows := settled.attempts
    rw [behind] at rows
    have length : old.length = s.attempts.length := by
      simpa using congrArg List.length ids
    obtain ⟨-, rfl⟩ := List.append_inj rows (by rw [List.length_map, length])
    refine ⟨turns, takes.taken, all, later, not_stops_iff.1 (takes.not_stops plain), ⟨_, _, rfl⟩,
      ?_⟩
    rw [settled.attempts]
    refine congrArg (· ++ additions _) (List.map_congr_left fun a mem => ?_)
    rw [outcomes a mem, Option.or_none]

end Cycle

/-! ## One operation among others -/

/-- The moment has nothing to do with an operation. -/
structure Moment.Elsewhere (op : Operation) (m : Moment) : Prop where
  exchange : m.exchange? op = none
  opened : m.opened? ≠ some op
  added : ∀ r, m.added? = some r → r.operation ≠ op

theorem exchanges_of_elsewhere (elsewhere : ∀ m ∈ t, m.Elsewhere op) : exchanges op t = [] :=
  List.filterMap_eq_nil_iff.2 fun m mem => (elsewhere m mem).exchange

theorem additions_of_elsewhere (elsewhere : ∀ m ∈ t, m.Elsewhere op) :
    (additions t).filter (·.operation = op) = [] := by
  rw [List.filter_eq_nil_iff]
  intro r added
  obtain ⟨m, mem, added⟩ := List.mem_filterMap.1 added
  simpa using (elsewhere m mem).added r added

namespace Cycle
variable {policy : CallPolicy} {queue : List Attempt} {b : Batch} {u : GroupTurn}
  {turns : List GroupTurn}

/-- The turn of another operation. -/
theorem Taken.elsewhere (taken : Taken policy queue b u) (stored : ∀ m ∈ u.moments, m.Stored)
    (own : ∀ a ∈ u.group, a.operation = u.operation) (other : u.operation ≠ op) :
    ∀ m ∈ u.moments, m.Elsewhere op := by
  obtain ⟨progress, s, next, after, takes⟩ := taken
  have added : ∀ m ∈ u.moments, ∀ r, m.added? = some r → r.operation ≠ op := by
    intro m mem r added
    rw [takes.operation_of_added stored own r (List.mem_filterMap.2 ⟨m, mem, added⟩)]
    exact other
  have delivers := takes.delivers stored
  have silent := List.filterMap_eq_nil_iff.1 (delivers.exchanges_other other)
  intro m mem
  rcases List.mem_append.1 mem with calling | recording
  · refine ⟨silent m calling, ?_, added m mem⟩
    obtain ⟨head, opening, tail, endedAt, whole, first, opened, last, -⟩ := delivers.opening
    rw [whole, List.mem_append, List.mem_cons] at calling
    rcases calling with before | rfl | behind
    · simp [first m before]
    · simpa [opened] using other
    · simp [last m behind]
  · have here := takes.recording_local m recording
    exact ⟨Moment.exchange?_of_isLocal here op, by simp [Moment.opened?_of_isLocal here],
      added m mem⟩

/-- What one operation sees of a cycle that its group takes part in. -/
structure Passage.Seen (policy : CallPolicy) (queue : List Attempt) (b : Batch)
    (turns : List GroupTurn) (t : List Moment) (u : GroupTurn) : Prop where
  taken : Taken policy queue b u
  stored : ∀ m ∈ u.moments, m.Stored
  running : ∀ m ∈ u.moments, m.Running
  answer : answerTo turns u.operation = u.answer.toOption
  exchanges : exchanges u.operation t = exchanges u.operation u.calling
  additions : (additions t).filter (·.operation = u.operation) = additions u.moments
  readings : ∃ endedAt more,
    readingsOf u.operation t = endedAt :: (u.recording.filterMap Moment.reading? ++ more)

variable {maxCreates : Nat}

/-- In a turn of a passage the group is that of the batch. -/
theorem Passage.own (passage : Passage policy queue (Batch.build queue maxCreates) s turns t after)
    (mem : u ∈ turns) : ∀ a ∈ u.group, a.operation = u.operation := by
  rw [group_of_sending passage.all mem]
  exact fun a sent => (Batch.mem_of_mem_group sent).2

/-- The turns of other operations have nothing to do with an operation. -/
theorem Passage.elsewhere
    (passage : Passage policy queue (Batch.build queue maxCreates) s turns t after)
    {some : List GroupTurn} (sub : ∀ u ∈ some, u ∈ turns) (other : ∀ u ∈ some, u.operation ≠ op) :
    ∀ m ∈ some.flatMap GroupTurn.moments, m.Elsewhere op := by
  intro m mem
  obtain ⟨u, listed, inside⟩ := List.mem_flatMap.1 mem
  refine (passage.taken u (sub u listed)).elsewhere (fun m mem => ?_)
    (passage.own (sub u listed)) (other u listed) m inside
  exact passage.stored m (List.mem_flatMap.2 ⟨u, sub u listed, mem⟩)

/-- An operation without a group has no part in the cycle. -/
theorem Passage.absent
    (passage : Passage policy queue (Batch.build queue maxCreates) s turns t after)
    (absent : ∀ u ∈ turns, u.operation ≠ op) : answerTo turns op = none ∧ exchanges op t = [] ∧
      (additions t).filter (·.operation = op) = [] := by
  obtain ⟨department, queue', rfl⟩ := passage.moments
  have elsewhere := passage.elsewhere (fun u mem => mem) absent
  have unsent := exchanges_of_elsewhere elsewhere
  have unchanged := additions_of_elsewhere elsewhere
  exact ⟨answerTo_eq_none absent, unsent, unchanged⟩

/-- An operation with a group has one turn, and sees nothing of the others. -/
theorem Passage.seen
    (passage : Passage policy queue (Batch.build queue maxCreates) s turns t after)
    (mem : u ∈ turns) : Passage.Seen policy queue (Batch.build queue maxCreates) turns t u := by
  have once : (turns.map (·.operation)).Nodup := by
    have groups := (Batch.build queue maxCreates).nodup_groups
    rwa [← passage.all, List.map_map] at groups
  obtain ⟨before, later, rfl⟩ := List.append_of_mem mem
  obtain ⟨department, queue', rfl⟩ := passage.moments
  rw [List.map_append, List.map_cons, List.nodup_append, List.nodup_cons] at once
  obtain ⟨-, ⟨last, -⟩, apart⟩ := once
  have first : ∀ v ∈ before, v.operation ≠ u.operation := fun v listed =>
    apart _ (List.mem_map_of_mem listed) _ List.mem_cons_self
  have last : ∀ v ∈ later, v.operation ≠ u.operation := fun v listed same =>
    last (same ▸ List.mem_map_of_mem listed)
  have earlier := passage.elsewhere (fun v listed => List.mem_append_left _ listed) first
  have behind := passage.elsewhere
    (fun v listed => List.mem_append_right _ (List.mem_cons_of_mem _ listed)) last
  have inside : ∀ m ∈ u.moments, m ∈ (before ++ u :: later).flatMap GroupTurn.moments :=
    fun m here => List.mem_flatMap.2 ⟨u, mem, here⟩
  have stored : ∀ m ∈ u.moments, m.Stored := fun m here => passage.stored m (inside m here)
  obtain ⟨progress, s', next, after', takes⟩ := passage.taken u mem
  have whole : (before ++ u :: later).flatMap GroupTurn.moments =
      before.flatMap GroupTurn.moments ++ (u.moments ++ later.flatMap GroupTurn.moments) := by
    rw [List.flatMap_append, List.flatMap_cons]
  constructor
  case taken => exact ⟨progress, s', next, after', takes⟩
  case stored => exact stored
  case running => exact fun m here => passage.running m (inside m here)
  case answer => exact answerTo_append_cons first last
  case exchanges =>
    change exchanges u.operation ((before ++ u :: later).flatMap GroupTurn.moments) = _
    rw [whole, exchanges_append, exchanges_append, exchanges_of_elsewhere earlier,
      exchanges_of_elsewhere behind, takes.exchanges_moments, List.nil_append, List.append_nil]
  case additions =>
    have kept : (additions u.moments).filter (·.operation = u.operation) = additions u.moments :=
      List.filter_eq_self.2 fun r added => by
        simpa using takes.operation_of_added stored (passage.own mem) r added
    change (additions ((before ++ u :: later).flatMap GroupTurn.moments)).filter _ = _
    rw [whole, additions_append, additions_append, List.filter_append, List.filter_append, kept,
      additions_of_elsewhere earlier, additions_of_elsewhere behind, List.nil_append,
      List.append_nil]
  case readings =>
    obtain ⟨head, m, tail, endedAt, calling, unopened, opened, silent, clock⟩ :=
      (takes.delivers stored).opening
    have other : ∀ m ∈ ⟨s, .pendingAttempts department, .ok queue'⟩ ::
        (before.flatMap GroupTurn.moments ++ head), m.opened? ≠ some u.operation := by
      refine List.forall_mem_cons.2 ⟨nofun, List.forall_mem_append.2 ⟨?_, ?_⟩⟩
      · exact fun m mem => (earlier m mem).opened
      · exact fun m mem => by simp [unopened m mem]
    have quiet : ∀ m ∈ tail ++ u.recording, m.opened? = none :=
      List.forall_mem_append.2 ⟨silent, fun m mem =>
        Moment.opened?_of_isLocal (takes.recording_local m mem)⟩
    obtain ⟨more, shown⟩ := readingsOf_eq (later.flatMap GroupTurn.moments) other opened quiet
    refine ⟨endedAt, more, ?_⟩
    rw [List.filterMap_append, clock] at shown
    rw [whole, GroupTurn.moments, calling]
    simpa using shown

theorem Passage.getElem?_rows (passage : Passage policy queue b s turns t after) {i : Nat}
    (here : s.attempts[i]? = some a) :
    after.attempts[i]? =
      some (a.settle ((answerTo turns a.operation).bind (b.outcomeIn? · a))) := by
  have lt : i < s.attempts.length := (List.getElem?_eq_some_iff.1 here).1
  rw [passage.rows, List.getElem?_append_left (by rwa [List.length_map]), List.getElem?_map, here]
  rfl

theorem Passage.drop_rows (passage : Passage policy queue b s turns t after) :
    after.attempts.drop s.attempts.length = additions t := by
  rw [passage.rows]
  exact List.drop_left' (List.length_map _)

/-- Two cycles treat an operation alike: its old rows end in the same state, up to the identifier of
the call, its new rows are the same, up to their own identifiers, and the same is sent for it. -/
structure Unaffected (op : Operation) (s : Store) (t t' : List Moment) (after after' : Store) :
    Prop where
  rows : ∃ call call' : Uuid, ∀ (i : Nat) (a : Attempt), s.attempts[i]? = some a →
    a.operation = op → ∃ r r' : Attempt, after.attempts[i]? = some r ∧
      after'.attempts[i]? = some r' ∧ r.Recalled call call' r'
  resends : List.Forall₂ Attempt.Renamed
    ((after.attempts.drop s.attempts.length).filter (·.operation = op))
    ((after'.attempts.drop s.attempts.length).filter (·.operation = op))
  sent : exchanges op t = exchanges op t'

/-- Two passages treat an operation alike if its answers in them correspond. -/
theorem Passage.unaffected {turns' : List GroupTurn}
    (passage : Passage policy queue b s turns t after)
    (passage' : Passage policy queue b s turns' t' after')
    (corresponds : Corresponds (answerTo turns op) (answerTo turns' op))
    (resends : List.Forall₂ Attempt.Renamed ((additions t).filter (·.operation = op))
      ((additions t').filter (·.operation = op)))
    (sent : exchanges op t = exchanges op t') : Unaffected op s t t' after after' := by
  refine ⟨?_, by rwa [passage.drop_rows, passage'.drop_rows], sent⟩
  generalize known : answerTo turns op = answer at corresponds
  generalize known' : answerTo turns' op = answer' at corresponds
  cases corresponds with
  | unanswered =>
    refine ⟨.ofNat 0, .ofNat 0, fun i a here same => ?_⟩
    refine ⟨_, _, passage.getElem?_rows here, passage'.getElem?_rows here, .inl ?_⟩
    rw [same, known, known']
  | answered g call =>
    refine ⟨g.call, call, fun i a here same => ?_⟩
    refine ⟨_, _, passage.getElem?_rows here, passage'.getElem?_rows here, ?_⟩
    rw [same, known, known', Option.bind_some, Option.bind_some, Batch.outcomeIn?_recalled]
    exact Attempt.recalled_settle fun c outcome => Batch.call_of_outcomeIn? outcome

/-- The groups of a cycle do not influence each other. Whatever the Planner replies to the calls of
other operations, two cycles from the same tables treat an operation alike if the replies to its own
calls agree, and what the clock shows in its turn; with storage that does not fail, and where
neither cycle is ended by a shutdown. -/
theorem groups_independent {department : String} {report report' : CycleReport}
    (distinct : (s.attempts.map (·.id)).Nodup)
    (run : Runs (Cycle.run policy maxCreates department) s t (.ok report) after)
    (run' : Runs (Cycle.run policy maxCreates department) s t' (.ok report') after')
    (stored : ∀ m ∈ t, m.Stored) (stored' : ∀ m ∈ t', m.Stored)
    (replies : Concur (repliesTo op t) (repliesTo op t'))
    (readings : Concur (readingsOf op t) (readingsOf op t')) :
    Unaffected op s t t' after after' := by
  obtain ⟨turns, passage⟩ := passage_run distinct run stored
  obtain ⟨turns', passage'⟩ := passage_run distinct run' stored'
  by_cases absent : ∀ u ∈ turns, u.operation ≠ op
  · have absent' : ∀ u ∈ turns', u.operation ≠ op := by
      intro u mem
      have listed := passage'.all ▸ List.mem_map_of_mem (f := GroupTurn.sending) mem
      rw [← passage.all] at listed
      obtain ⟨v, mem', same⟩ := List.mem_map.1 listed
      have operation : v.operation = u.operation := congrArg Prod.fst same
      exact operation ▸ absent v mem'
    obtain ⟨unanswered, unsent, unchanged⟩ := passage.absent absent
    obtain ⟨unanswered', unsent', unchanged'⟩ := passage'.absent absent'
    refine passage.unaffected passage' ?_ ?_ ?_
    · rw [unanswered, unanswered']
      exact .unanswered
    · rw [unchanged, unchanged']
      exact .nil
    · rw [unsent, unsent']
  · push Not at absent
    obtain ⟨u, mem, rfl⟩ := absent
    have listed := passage.all ▸ List.mem_map_of_mem (f := GroupTurn.sending) mem
    rw [← passage'.all] at listed
    obtain ⟨u', mem', same⟩ := List.mem_map.1 listed
    have operation : u'.operation = u.operation := congrArg Prod.fst same
    have seen := passage.seen mem
    have seen' := passage'.seen mem'
    obtain ⟨_, _, _, _, takes⟩ := seen.taken
    obtain ⟨_, _, _, _, takes'⟩ := seen'.taken
    obtain ⟨endedAt, more, clock⟩ := seen.readings
    obtain ⟨endedAt', more', clock'⟩ := seen'.readings
    have answered' := seen'.answer
    have exchanged' := seen'.exchanges
    have added' := seen'.additions
    rw [operation] at answered' exchanged' added' clock'
    rw [repliesTo, repliesTo, seen.exchanges, exchanged'] at replies
    rw [clock, clock'] at readings
    obtain ⟨corresponds, exchanged, added⟩ := takes.corresponds takes' same.symm seen.stored
      seen'.stored seen.running seen'.running replies readings
    refine passage.unaffected passage' ?_ ?_ ?_
    · rwa [seen.answer, answered']
    · rw [seen.additions, added']
      exact added
    · rw [seen.exchanges, exchanged', exchanged]

end Cycle

namespace Simulation.World

/-- The sample with a Planner that can be reached by calls for updates only. -/
def secluded : World :=
  { World.sample with
    script := { World.sample.script with replies := unreachable [.create, .delete] } }

end Simulation.World

namespace Cycle

/-- The update and its resend do not depend on whether the other groups are answered. -/
theorem groups_independent_secluded : ∃ (report report' : CycleReport) (after after' : Store),
    Runs (Cycle.run World.samplePolicy 10 "rooms") World.sample.store
      (World.sample.moments (Cycle.run World.samplePolicy 10 "rooms")) (.ok report) after ∧
    Runs (Cycle.run World.samplePolicy 10 "rooms") World.sample.store
      (World.secluded.moments (Cycle.run World.samplePolicy 10 "rooms")) (.ok report') after' ∧
    report.failedGroups.length = 0 ∧ report'.failedGroups.length = 2 ∧
    Unaffected .update World.sample.store
      (World.sample.moments (Cycle.run World.samplePolicy 10 "rooms"))
      (World.secluded.moments (Cycle.run World.samplePolicy 10 "rooms")) after after' := by
  let run := Cycle.run World.samplePolicy 10 "rooms"
  let e : DomainError := (PlannerError.transport "reset").toDomain
  let report : CycleReport := ⟨"rooms", 3, 2, 1, 0, 0, 1, 0, 0, [], [], []⟩
  let report' : CycleReport :=
    ⟨"rooms", 1, 0, 1, 0, 0, 1, 0, 0, [], [], [⟨.create, 1, e⟩, ⟨.delete, 1, e⟩]⟩
  obtain ⟨ran, -⟩ := World.runs_of_result? World.sample run rfl
    (show _ = some (Except.ok report) by decide +kernel)
  obtain ⟨ran', -⟩ := World.runs_of_result? World.secluded run rfl
    (show _ = some (Except.ok report') by decide +kernel)
  refine ⟨report, report', _, _, ran, ran', rfl, rfl, ?_⟩
  exact groups_independent (by decide +kernel) ran ran' (by decide +kernel) (by decide +kernel)
    (by decide +kernel) (by decide +kernel)

/-- Where two attempts have one identifier, what becomes of an attempt depends on the answer to the
group of the other. -/
theorem exists_closed_by_other : ¬ ∀ (policy : CallPolicy) (maxCreates : Nat) (department : String)
    (op : Operation) (s after after' : Store) (t t' : List Moment) (report report' : CycleReport),
      Runs (Cycle.run policy maxCreates department) s t (.ok report) after →
        Runs (Cycle.run policy maxCreates department) s t' (.ok report') after' →
          (∀ m ∈ t, m.Stored) → (∀ m ∈ t', m.Stored) →
            Concur (repliesTo op t) (repliesTo op t') →
              Concur (readingsOf op t) (readingsOf op t') → Unaffected op s t t' after after' := by
  intro alike
  let run := Cycle.run World.samplePolicy 10 "rooms"
  let e : DomainError := (PlannerError.transport "reset").toDomain
  let report : CycleReport := ⟨"rooms", 1, 1, 0, 0, 0, 0, 0, 0, [], [], [⟨.delete, 1, e⟩]⟩
  let report' : CycleReport :=
    ⟨"rooms", 0, 0, 0, 0, 0, 0, 0, 0, [], [], [⟨.create, 1, e⟩, ⟨.delete, 1, e⟩]⟩
  obtain ⟨ran, -⟩ := World.runs_of_result? (World.doubled [.delete]) run rfl
    (show _ = some (Except.ok report) by decide +kernel)
  obtain ⟨ran', -⟩ := World.runs_of_result? (World.doubled [.create, .delete]) run rfl
    (show _ = some (Except.ok report') by decide +kernel)
  obtain ⟨call, call', same⟩ := (alike _ _ _ .delete _ _ _ _ _ _ _ ran ran' (by decide +kernel)
    (by decide +kernel) (by decide +kernel) (by decide +kernel)).rows
  obtain ⟨r, r', here, here', recalled⟩ := same 0 _ rfl rfl
  have closed : (World.run run (World.doubled [.delete])).1.store.attempts[0]?.map (·.isPending) =
      some false := by decide +kernel
  have waiting : (World.run run (World.doubled [.create, .delete])).1.store.attempts[0]?.map
      (·.isPending) = some true := by decide +kernel
  rw [here] at closed
  rw [here'] at waiting
  have pending : r'.isPending = r.isPending := by
    obtain rfl | ⟨-, rfl⟩ := recalled
    · rfl
    · rfl
  rw [Option.map_some, ← pending] at closed
  rw [Option.map_some, closed] at waiting
  cases waiting

end Cycle
end CalendarSync
