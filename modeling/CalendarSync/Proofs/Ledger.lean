import CalendarSync.Proofs.Vouching

/-!
# The log of calls

Each cycle adds one closed record for every group that it attempts, and no other operation adds any.
Between operations every attempt with an outcome names the record of an answered call of its
operation, unless it was withdrawn.
-/

namespace CalendarSync
set_option autoImplicit false
open Program Simulation

namespace Moment
variable {m : Moment} {op op' : Operation}

/-- Only a call is answered. -/
theorem reply?_of_isCall (other : m.request.isCall = false) : m.reply? op = none := by
  obtain ⟨store, request, answer⟩ := m
  cases request with
  | send op' group correlation limit => cases other
  | _ => rfl

/-- A call of one operation is answered for no other. -/
theorem reply?_of_ne {group : List Attempt} {correlation : String} {limit : Duration}
    (sends : m.request = .send op group correlation limit) (ne : op ≠ op') :
    m.reply? op' = none := by
  obtain ⟨store, request, answer⟩ := m
  subst sends
  cases answer with
  | ok results => exact if_neg ne
  | error e => rfl

end Moment

theorem readings_append (t t' : List Moment) : readings (t ++ t') = readings t ++ readings t' :=
  List.filterMap_append

namespace Cycle
variable {policy : CallPolicy} {op : Operation} {group : List Attempt} {s after : Store}
  {t t' : List Moment} {groups : List (Operation × List Attempt)} {records : List Call}
  {record : Call} {result : Except DomainError CycleReport}

/-- What is logged of the groups of a cycle. -/
structure Logged (groups : List (Operation × List Attempt)) (t : List Moment)
    (result : Except DomainError CycleReport) (records : List Call) : Prop where
  /-- The groups that were attempted have one record each, in their order. -/
  attempted : records.map (·.operation) <+: groups.map Prod.fst
  /-- Only a shutdown keeps groups from being attempted. -/
  whole : ∀ report, result = .ok report → records.length = groups.length
  /-- Every call carries a group and the correlation of its record. -/
  correlated : ∀ m ∈ t, m.request.isCall = true → ∃ record ∈ records, ∃ group limit,
    (record.operation, group) ∈ groups ∧
      m.request = .send record.operation group record.correlation limit
  success : ∀ record ∈ records,
    record.success = some (t.findSome? (Moment.reply? record.operation)).isSome
  closed : ∀ record ∈ records, record.isOpen = false

theorem Logged.nil (result : Except DomainError CycleReport) : Logged [] [] result [] := by
  constructor <;> simp

/-- Nothing else is answered in the turn of a group. -/
theorem Filed.silent {answer : Except DomainError (Uuid × List ItemResult)} {op' : Operation}
    (filed : Filed op group t answer record) (ne : op ≠ op') :
    t.findSome? (Moment.reply? op') = none := by
  refine List.findSome?_eq_none_iff.2 fun m mem => ?_
  cases isCall : m.request.isCall with
  | false => exact Moment.reply?_of_isCall isCall
  | true =>
    obtain ⟨limit, sends⟩ := filed.correlated m mem isCall
    exact Moment.reply?_of_ne sends ne

theorem Logged.silent (logged : Logged groups t result records)
    (out : op ∉ groups.map Prod.fst) : t.findSome? (Moment.reply? op) = none := by
  refine List.findSome?_eq_none_iff.2 fun m mem => ?_
  cases isCall : m.request.isCall with
  | false => exact Moment.reply?_of_isCall isCall
  | true =>
    obtain ⟨record, -, group, limit, listed, sends⟩ := logged.correlated m mem isCall
    refine Moment.reply?_of_ne sends fun same => out ?_
    exact same ▸ List.mem_map_of_mem (f := Prod.fst) listed

theorem Filed.closed {answer : Except DomainError (Uuid × List ItemResult)}
    (filed : Filed op group t answer record) : record.isOpen = false := by
  obtain ⟨instant, -, ended, -⟩ := filed.ended
  simp [Call.isOpen, ended]

/-- A group is attempted before others, and its answer is recorded in between. -/
theorem Logged.cons {answer : Except DomainError (Uuid × List ItemResult)} {quiet : List Moment}
    (filed : Filed op group t answer record)
    (replied : t.findSome? (Moment.reply? op) = answer.toOption.map (·.2))
    (uncalled : ∀ m ∈ quiet, m.request.isCall = false) (once : op ∉ groups.map Prod.fst)
    (rest : Logged groups t' result records) :
    Logged ((op, group) :: groups) (t ++ (quiet ++ t')) result (record :: records) := by
  have nothing (op : Operation) : quiet.findSome? (Moment.reply? op) = none :=
    List.findSome?_eq_none_iff.2 fun m mem => Moment.reply?_of_isCall (uncalled m mem)
  constructor
  case attempted =>
    rw [List.map_cons, List.map_cons, filed.operation, List.prefix_cons_inj]
    exact rest.attempted
  case whole =>
    intro report ok
    rw [List.length_cons, List.length_cons, rest.whole report ok]
  case correlated =>
    refine List.forall_mem_append.2 ⟨fun m mem isCall => ?_,
      List.forall_mem_append.2 ⟨fun m mem isCall => ?_, fun m mem isCall => ?_⟩⟩
    · obtain ⟨limit, sends⟩ := filed.correlated m mem isCall
      refine ⟨record, List.mem_cons_self, group, limit, ?_⟩
      rw [filed.operation]
      exact ⟨List.mem_cons_self, sends⟩
    · rw [uncalled m mem] at isCall
      cases isCall
    · obtain ⟨record, filed, group, limit, listed, sends⟩ := rest.correlated m mem isCall
      exact ⟨record, List.mem_cons_of_mem _ filed, group, limit, List.mem_cons_of_mem _ listed, sends⟩
  case success =>
    refine List.forall_mem_cons.2 ⟨?_, fun later mem => ?_⟩
    · rw [filed.operation, List.findSome?_append, List.findSome?_append, nothing, rest.silent once,
        replied, filed.success]
      cases answer <;> rfl
    · have ne : op ≠ later.operation := by
        intro same
        refine once (same ▸ rest.attempted.subset ?_)
        exact List.mem_map_of_mem (f := (·.operation)) mem
      rw [List.findSome?_append, List.findSome?_append, nothing, filed.silent ne,
        rest.success later mem]
      rfl
  case closed => exact List.forall_mem_cons.2 ⟨filed.closed, rest.closed⟩

/-- A shutdown ends the cycle. -/
theorem Logged.stop {answer : Except DomainError (Uuid × List ItemResult)} {e : DomainError}
    (filed : Filed op group t answer record)
    (replied : t.findSome? (Moment.reply? op) = answer.toOption.map (·.2))  :
    Logged ((op, group) :: groups) t (.error e) [record] := by
  constructor
  case attempted =>
    rw [List.map_cons, List.map_cons, filed.operation, List.prefix_cons_inj]
    exact List.nil_prefix
  case whole => exact fun report ok => by cases ok
  case correlated =>
    intro m mem isCall
    obtain ⟨limit, sends⟩ := filed.correlated m mem isCall
    refine ⟨record, List.mem_cons_self, group, limit, ?_⟩
    rw [filed.operation]
    exact ⟨List.mem_cons_self, sends⟩
  case success =>
    refine List.forall_mem_singleton.2 ?_
    rw [filed.operation, replied, filed.success]
    cases answer <;> rfl
  case closed => exact List.forall_mem_singleton.2 filed.closed

/-- What is known of the call of a group: its record is filed at the end of the table of calls. -/
theorem filed_of_runs {answer : Except DomainError (Uuid × List ItemResult)}
    (run : Runs (sendGroup policy op group) s t answer after) (stored : ∀ m ∈ t, m.Stored)
    (clock : (readings t).Pairwise (· ≤ ·)) (fresh : (s.calls.map (·.id) ++ issued t).Nodup) :
    ∃ record, Filed op group t answer record ∧ after = { s with calls := s.calls ++ [record] } ∧
      t.findSome? (Moment.reply? op) = answer.toOption.map (·.2) := by
  obtain ⟨record, filed, same⟩ := filed_sendGroup run stored clock fun id issued c mem =>
    (List.nodup_append.1 fresh).2.2 _ (List.mem_map_of_mem mem) id issued
  exact ⟨record, filed, same, (runs_sendGroup run).2.2.1⟩

/-- What sending groups comes to: records with new identifiers at the end of the table of calls, and
attempts that are vouched for. -/
structure Entered (groups : List (Operation × List Attempt)) (s : Store) (t : List Moment)
    (result : Except DomainError CycleReport) (after : Store) (records : List Call) : Prop where
  logged : Logged groups t result records
  named : (records.map (·.id)).Sublist (issued t)
  calls : after.calls = s.calls ++ records
  rows : ∀ a ∈ after.attempts, a.Vouched after

/-- A group goes out before others. -/
theorem Entered.cons {answer : Except DomainError (Uuid × List ItemResult)} {middle : Store}
    (quiet : List Moment) (filed : Filed op group t answer record)
    (replied : t.findSome? (Moment.reply? op) = answer.toOption.map (·.2))
    (uncalled : ∀ m ∈ quiet, m.request.isCall = false) (once : op ∉ groups.map Prod.fst)
    (calls : middle.calls = s.calls ++ [record])
    (rest : Entered groups middle t' result after records) :
    Entered ((op, group) :: groups) s (t ++ (quiet ++ t')) result after (record :: records) := by
  refine ⟨rest.logged.cons filed replied uncalled once, ?_, ?_, rest.rows⟩
  · rw [issued_append, issued_append, List.map_cons, ← List.singleton_append]
    refine (List.singleton_sublist.2 filed.identified).append ?_
    exact rest.named.trans (List.sublist_append_right _ _)
  · rw [rest.calls, calls, List.append_assoc, List.singleton_append]

/-- The new record leaves the identifiers of later ones new. -/
theorem Filed.fresh {answer : Except DomainError (Uuid × List ItemResult)} {middle : Store}
    (quiet : List Moment) (filed : Filed op group t answer record)
    (fresh : (s.calls.map (·.id) ++ issued (t ++ (quiet ++ t'))).Nodup)
    (calls : middle.calls = s.calls ++ [record]) :
    (middle.calls.map (·.id) ++ issued t').Nodup := by
  refine fresh.sublist ?_
  rw [calls, issued_append, issued_append, List.map_append, List.append_assoc]
  refine (List.Sublist.refl _).append ((List.singleton_sublist.2 filed.identified).append ?_)
  exact List.sublist_append_right _ _

/-- The record of an answered call backs the outcomes that are dated after it. -/
theorem Filed.backs {answer : Uuid × List ItemResult} {instant : Timestamp}
    (filed : Filed op group t (.ok answer) record)
    (clock : (readings (t ++ t')).Pairwise (· ≤ ·)) (later : instant ∈ readings t') :
    record.Backs op instant := by
  obtain ⟨ended, shown, closed, forward⟩ := filed.ended
  exact ⟨filed.operation, filed.success, ended, closed, forward, le_of_readings clock shown later⟩

/-- Sending groups one after the other. -/
theorem entered_sendGroups {queue : List Attempt} {maxCreates : Nat} {progress : Progress}
    (vouching : Vouching queue progress.recorded s) (distinct : (queue.map (·.id)).Nodup)
    (listed : ∀ g ∈ groups, ∀ a ∈ g.2, a ∈ queue ∧ a.operation = g.1)
    (once : (groups.map Prod.fst).Nodup)
    (run : Runs (sendGroups policy queue (Batch.build queue maxCreates) groups progress)
      s t result after)
    (clear : ∀ m ∈ t, Clear queue m) (clock : (readings t).Pairwise (· ≤ ·))
    (fresh : (s.calls.map (·.id) ++ issued t).Nodup) :
    ∃ records, Entered groups s t result after records := by
  induction groups generalizing s t progress with
  | nil =>
    obtain ⟨rfl, rfl⟩ := runs_sendGroups_nil run
    exact ⟨[], .nil result, List.nil_sublist _, by simp, vouching.rows⟩
  | cons head groups ih =>
    obtain ⟨op, group⟩ := head
    rw [List.forall_mem_cons] at listed
    rw [List.map_cons, List.nodup_cons] at once
    cases runs_sendGroups_cons run with
    | shutdown sent =>
      obtain ⟨record, filed, rfl, replied⟩ :=
        filed_of_runs sent (fun m mem => (clear m mem).1) clock fresh
      refine ⟨[record], .stop filed replied, ?_, rfl, (vouching.file record).rows⟩
      exact List.singleton_sublist.2 filed.identified
    | @failed e t₁ t₂ next middle _ _ sent kept more =>
      rw [List.forall_mem_append] at clear
      obtain ⟨clock₁, clock₂, -⟩ := List.pairwise_append.1 (readings_append t₁ t₂ ▸ clock)
      obtain ⟨record, filed, rfl, replied⟩ :=
        filed_of_runs sent (fun m mem => (clear.1 m mem).1) clock₁ (nodup_issued_left fresh)
      obtain ⟨records, entered⟩ := ih (kept ▸ vouching.file record) listed.2 once.2 more clear.2
        clock₂ (filed.fresh [] fresh rfl)
      exact ⟨record :: records, entered.cons [] filed replied (by simp) once.1 rfl⟩
    | @answered call results syncedAt t₁ t₂ t₃ t₄ progress₁ progress₂ progress₃ s₁ s₂ s₃ _ _ sent
        kept recording closing more =>
      have split : t₁ ++ ⟨s₁, .now, syncedAt⟩ :: (t₂ ++ (t₃ ++ t₄)) =
          t₁ ++ ((⟨s₁, .now, syncedAt⟩ :: (t₂ ++ t₃)) ++ t₄) := by simp
      rw [split] at clear clock fresh ⊢
      rw [List.forall_mem_append, List.forall_mem_append, List.forall_mem_cons,
        List.forall_mem_append] at clear
      obtain ⟨clear₁, ⟨-, clear₂, clear₃⟩, clear₄⟩ := clear
      obtain ⟨clock₁, clock₂, -⟩ := List.pairwise_append.1 (readings_append _ _ ▸ clock)
      obtain ⟨-, clock₄, -⟩ := List.pairwise_append.1 (readings_append _ _ ▸ clock₂)
      obtain ⟨record, filed, rfl, replied⟩ :=
        filed_of_runs sent (fun m mem => (clear₁ m mem).1) clock₁ (nodup_issued_left fresh)
      obtain rfl : call = record.id := filed.named (call, results) rfl
      have backs : record.Backs op syncedAt :=
        filed.backs clock (List.mem_filterMap.2 ⟨_, List.mem_cons_self, rfl⟩)
      have vouching₃ : Vouching queue progress₃.recorded s₃ :=
        vouching_answer (kept ▸ vouching.file record) distinct listed.1 (by simp) backs recording
          closing clear₂ clear₃
      have calls : s₃.calls = s.calls ++ [record] :=
        (only_recordAll.within.agree .calls recording (by decide)).trans
          (only_closeAll.within.agree .calls closing (by decide))
      obtain ⟨records, entered⟩ :=
        ih vouching₃ listed.2 once.2 more clear₄ clock₄ (filed.fresh _ fresh calls)
      refine ⟨record :: records, entered.cons _ filed replied ?_ once.1 calls⟩
      refine List.forall_mem_cons.2 ⟨rfl, List.forall_mem_append.2 ⟨?_, ?_⟩⟩
      · exact only_recordAll.uncalled recording
      · exact only_closeAll.uncalled closing

/-- A cycle logs the groups of its batch. -/
theorem entered_run {maxCreates : Nat} {department : String}
    (run : Runs (Cycle.run policy maxCreates department) s t result after)
    (rows : ∀ a ∈ s.attempts, a.Vouched s) (stored : ∀ m ∈ t, m.Stored)
    (clock : (readings t).Pairwise (· ≤ ·)) (fresh : (s.attempts.map (·.id) ++ issued t).Nodup)
    (fresh' : (s.calls.map (·.id) ++ issued t).Nodup) :
    ∃ rest records, t = ⟨s, .pendingAttempts department, .ok (s.pending department)⟩ :: rest ∧
      Entered (Batch.build (s.pending department) maxCreates).groups s rest result after records := by
  obtain ⟨e, rfl, -, -⟩ | ⟨rest, rfl, sent⟩ := runs_run run
  · exact absurd (stored _ (List.mem_singleton_self _)) (fun h => by cases h)
  have sub : (s.pending department).Sublist s.attempts := List.filter_sublist
  have distinct : (s.attempts.map (·.id)).Nodup := fresh.of_append_left
  have clear : ∀ m ∈ rest, Clear (s.pending department) m := by
    refine fun m mem => ⟨stored m (List.mem_cons_of_mem _ mem), fun id issues a listed => ?_⟩
    have new : id ∈ issued rest := List.mem_filterMap.2 ⟨m, mem, issues⟩
    exact (List.nodup_append.1 fresh).2.2 _ (List.mem_map_of_mem (sub.subset listed)) id new
  have listed : ∀ g ∈ (Batch.build (s.pending department) maxCreates).groups, ∀ a ∈ g.2,
      a ∈ s.pending department ∧ a.operation = g.1 := by
    intro g mem a here
    rw [(Batch.mem_groups.1 mem).1] at here
    exact Batch.mem_of_mem_group here
  obtain ⟨records, entered⟩ := entered_sendGroups (.initial rows distinct sub.subset)
    (distinct.sublist (sub.map _)) listed (Batch.nodup_groups _) sent clear clock fresh'
  exact ⟨rest, records, rfl, entered⟩

end Cycle

/-! ## Histories -/

/-- What an operation logs: a cycle logs the groups of its batch, and nothing else calls the
Planner. -/
def Episode.Logs : Episode → List Call → Prop
  | ⟨.cycle _ maxCreates department, t, result⟩, records =>
    ∃ s rest, t = ⟨s, .pendingAttempts department, .ok (s.pending department)⟩ :: rest ∧
      Cycle.Logged (Batch.build (s.pending department) maxCreates).groups rest result records
  | ⟨.propose _ _, t, _⟩, records | ⟨.delete _, t, _⟩, records =>
    records = [] ∧ ∀ m ∈ t, m.request.isCall = false

/-- The log of calls is in order. -/
structure Audited (episodes : List Episode) (s : Store) : Prop where
  logs : ∃ records, List.Forall₂ Episode.Logs episodes records ∧ s.calls = records.flatten
  named : (s.calls.map (·.id)).Sublist (issued (momentsOf episodes))
  closed : ∀ record ∈ s.calls, record.isOpen = false
  rows : ∀ a ∈ s.attempts, a.Vouched s

namespace Audited
variable {s after : Store} {t : List Moment} {episodes : List Episode} {event : Uuid}

/-- One more operation, which adds these records. -/
theorem next {command : Command} {result : Except DomainError command.Result}
    {records : List Call} (audited : Audited episodes s)
    (logs : Episode.Logs ⟨command, t, result⟩ records) (calls : after.calls = s.calls ++ records)
    (named : (records.map (·.id)).Sublist (issued t))
    (closed : ∀ record ∈ records, record.isOpen = false) (rows : ∀ a ∈ after.attempts, a.Vouched after) :
    Audited (episodes ++ [⟨command, t, result⟩]) after := by
  obtain ⟨all, past, same⟩ := audited.logs
  refine ⟨⟨all ++ [records], List.rel_append past (.cons logs .nil), ?_⟩, ?_, ?_, rows⟩
  · rw [calls, same, List.flatten_append, List.flatten_singleton]
  · rw [calls, momentsOf_append, momentsOf_singleton, List.map_append, issued_append]
    exact audited.named.append named
  · rw [calls]
    exact List.forall_mem_append.2 ⟨audited.closed, closed⟩

/-- An attempt is proposed. -/
theorem propose {seen : Window} {result : Except DomainError (Option Attempt)}
    (audited : Audited episodes s)
    (run : Runs (Queue.proposeIfStale event seen) s t result after) :
    Audited (episodes ++ [⟨.propose event seen, t, result⟩]) after := by
  have uncalled := Queue.only_proposeIfStale.uncalled run
  cases Queue.runs_proposeIfStale run with
  | kept still none =>
    exact audited.next ⟨rfl, uncalled⟩ (List.append_nil _).symm (List.nil_sublist _) (by simp)
      audited.rows
  | proposed still found stale dated issued =>
    refine audited.next ⟨rfl, uncalled⟩ (List.append_nil _).symm (List.nil_sublist _) (by simp) ?_
    refine List.forall_mem_append.2 ⟨fun a mem => ?_, List.forall_mem_singleton.2 ?_⟩
    · exact (audited.rows a mem).mono (List.Subset.refl _) fun _ flag => flag
    · exact Attempt.vouched_of_isPending rfl

/-- Attempts of an event that has been flagged are withdrawn. -/
theorem withdraw {f : Store} {queue l : List Attempt} {instant : Timestamp}
    {result : Except DomainError Unit} (vouching : Vouching queue [] f) (listed : l ⊆ queue)
    (flagged : ∀ a ∈ queue, f.Flagged a.event)
    (run : Runs (Queue.withdraw (.withdrawn instant) l) f t result after) :
    Vouching queue [] after := by
  induction l generalizing f t with
  | nil =>
    obtain ⟨rfl, rfl⟩ := Queue.runs_withdraw_nil run
    exact vouching
  | cons a l ih =>
    rw [List.cons_subset] at listed
    unfold Queue.withdraw at run
    obtain ⟨e, rfl, asked⟩ | ⟨u, middle, _, _, rfl, asked, run₁⟩ := Service.runs_bind_iff.1 run
    · obtain ⟨wrote, rfl⟩ := runs_request_iff.1 asked
      obtain rfl : after = f := wrote
      exact vouching
    · obtain ⟨wrote, rfl⟩ := runs_request_iff.1 asked
      have wrote : f.completeAttempt a.id (.withdrawn instant) = .ok middle := wrote
      have valid : (Completion.withdrawn instant).Valid f a.event a.operation :=
        .inl ⟨flagged a listed.1, instant, rfl⟩
      refine ih (vouching.complete listed.1 valid wrote) listed.2 ?_ run₁
      rw [Store.flagged_congr (Store.events_completeAttempt wrote)]
      exact flagged

/-- An event is deleted. -/
theorem delete {result : Except DomainError (Option Attempt)} (audited : Audited episodes s)
    (distinct : (s.attempts.map (·.id)).Nodup)
    (run : Runs (Queue.delete event) s t result after) :
    Audited (episodes ++ [⟨.delete event, t, result⟩]) after := by
  have uncalled := Queue.only_delete.uncalled run
  have calls : after.calls = s.calls :=
    Queue.only_delete.within.agree .calls run (by decide)
  have flag {f : Store} (flags : Queue.Flags event s f) (same : f.calls = s.calls) :
      ∀ a ∈ f.attempts, a.Vouched f := by
    rw [flags.attempts]
    intro a mem
    refine (audited.rows a mem).mono ?_ fun event flagged => (flags.flagged event).2 (.inr flagged)
    rw [same]
    exact List.Subset.refl _
  refine audited.next ⟨rfl, uncalled⟩ (by rw [calls, List.append_nil]) (List.nil_sublist _)
    (by simp) ?_
  cases Queue.runs_delete run with
  | kept still none => exact audited.rows
  | flagged unflagged flags still still' none reason => exact flag flags calls
  | @proposed f t₁ t₂ latest createdAt fresh unflagged flags still still' last held dated issued =>
    refine List.forall_mem_append.2 ⟨fun a mem => ?_, List.forall_mem_singleton.2 ?_⟩
    · exact (flag flags calls a mem).mono (List.Subset.refl _) fun _ flag => flag
    · exact Attempt.vouched_of_isPending rfl
  | @withdrawn f _ _ _ _ instant _ unflagged flags still still' free withdraws =>
    have kept : after.calls = f.calls :=
      (Queue.only_withdraw [.attempts] (fun _ => rfl) _).within.agree .calls withdraws (by decide)
    have sub : (s.history event).filter (·.isPending) ⊆ f.attempts := by
      rw [flags.attempts]
      exact fun a mem => (Store.mem_waiting_history.1 mem).1
    have vouching : Vouching ((s.history event).filter (·.isPending)) [] f :=
      .initial (flag flags (kept.symm.trans calls)) (flags.attempts ▸ distinct) sub
    refine (withdraw vouching (List.Subset.refl _) (fun a mem => ?_) withdraws).rows
    exact (flags.flagged _).2 (.inl (Store.mem_waiting_history.1 mem).2.1)

/-- A cycle runs. -/
theorem cycle {policy : CallPolicy} {maxCreates : Nat} {department : String}
    {result : Except DomainError CycleReport} (audited : Audited episodes s)
    (run : Runs (Cycle.run policy maxCreates department) s t result after)
    (stored : ∀ m ∈ t, m.Stored) (clock : (readings t).Pairwise (· ≤ ·))
    (fresh : (s.attempts.map (·.id) ++ issued t).Nodup)
    (fresh' : (s.calls.map (·.id) ++ issued t).Nodup) :
    Audited (episodes ++ [⟨.cycle policy maxCreates department, t, result⟩]) after := by
  obtain ⟨rest, records, rfl, entered⟩ :=
    Cycle.entered_run run audited.rows stored clock fresh fresh'
  exact audited.next ⟨s, rest, rfl, entered.logged⟩ entered.calls entered.named
    entered.logged.closed entered.rows

end Audited

theorem audited_history {s₀ s : Store} {episodes : List Episode} (history : History s₀ episodes s)
    (noAttempts : s₀.attempts = []) (noCalls : s₀.calls = [])
    (stored : ∀ m ∈ momentsOf episodes, m.Stored)
    (clock : (readings (momentsOf episodes)).Pairwise (· ≤ ·))
    (fresh : (issued (momentsOf episodes)).Nodup) : Audited episodes s := by
  induction history with
  | start =>
    refine ⟨⟨[], .nil, by simp [noCalls]⟩, by simp [noCalls], by simp [noCalls], ?_⟩
    simp [noAttempts]
  | @next episodes s after command t result past run ih =>
    rw [momentsOf_append, momentsOf_singleton] at stored clock fresh
    rw [List.forall_mem_append] at stored
    rw [readings_append] at clock
    rw [issued_append] at fresh
    obtain ⟨clock₁, clock₂, -⟩ := List.pairwise_append.1 clock
    have audited := ih stored.1 clock₁ fresh.of_append_left
    -- Attempts and records alike have identifiers that were issued for them.
    have kept := kept_history past (by simp [noAttempts])
      (by simpa [noAttempts] using fresh.of_append_left)
    have ids : (s.attempts.map (·.id)).Sublist (issued (momentsOf episodes)) := by
      rw [kept.ids, noAttempts]
      exact kept.named
    have new := fresh.sublist (ids.append (List.Sublist.refl (issued t)))
    cases command with
    | propose event seen => exact audited.propose run
    | delete event => exact audited.delete new.of_append_left run
    | cycle policy maxCreates department =>
      exact audited.cycle run stored.2 clock₂ new
        (fresh.sublist (audited.named.append (List.Sublist.refl (issued t))))

/-- The log of calls is complete and consistent after every history from empty tables, whatever the
Planner answers and whenever a shutdown comes. Each cycle adds one record for every group that it
attempts, with the correlation of all tries of the group's call, which tells of success exactly if
the call was answered. No record is open, and every attempt with an outcome names the record of an
answered call of its operation, unless it was withdrawn because its event was deleted. -/
theorem accountable_history {s₀ s : Store} {episodes : List Episode}
    (history : History s₀ episodes s) (noAttempts : s₀.attempts = []) (noCalls : s₀.calls = [])
    (stored : ∀ m ∈ momentsOf episodes, m.Stored)
    (clock : (readings (momentsOf episodes)).Pairwise (· ≤ ·))
    (fresh : (issued (momentsOf episodes)).Nodup) :
    (∃ records, List.Forall₂ Episode.Logs episodes records ∧ s.calls = records.flatten) ∧
    (s.calls.map (·.id)).Nodup ∧ (∀ record ∈ s.calls, record.isOpen = false) ∧
    ∀ a ∈ s.attempts, a.isPending = false →
      (a.call = none ∧ s.Flagged a.event ∧ ∃ instant, a.complete (.withdrawn instant) = a) ∨
      ∃ record ∈ s.calls, a.call = some record.id ∧
        ∃ instant, a.syncedAt = some instant ∧ record.Backs a.operation instant := by
  have audited := audited_history history noAttempts noCalls stored clock fresh
  refine ⟨audited.logs, fresh.sublist audited.named, audited.closed, fun a mem closed => ?_⟩
  obtain ⟨c, same, ⟨flagged, instant, rfl⟩ | ⟨record, filed, named, backs⟩⟩ :=
    audited.rows a mem closed
  · exact .inl ⟨by rw [← same]; rfl, flagged, instant, same⟩
  · refine .inr ⟨record, filed, ?_, c.syncedAt, ?_, backs⟩
    · rw [← same]
      exact named
    · rw [← same]
      rfl

/-- In the sample history one create is withdrawn, and each of the three calls has its record. -/
theorem accountable_lifetimes : ∃ episodes,
    History World.standing.store episodes (World.standing.perform World.lifetimes).store ∧
    (World.standing.perform World.lifetimes).store.calls.length = 3 ∧
    ∀ record ∈ (World.standing.perform World.lifetimes).store.calls, record.isOpen = false := by
  obtain ⟨episodes, history, moments⟩ :=
    World.exists_history World.lifetimes World.standing rfl (by decide +kernel)
  obtain ⟨-, -, closed, -⟩ := accountable_history history rfl rfl
    (by rw [moments]; decide +kernel) (by rw [moments]; decide +kernel)
    (by rw [moments]; decide +kernel)
  exact ⟨episodes, history, by decide +kernel, closed⟩

end CalendarSync
