import CalendarSync.Proofs.Accounting
import CalendarSync.Proofs.Clearing
import CalendarSync.Proofs.Footprint
import CalendarSync.Proofs.Tries

/-!
# Cycles that the Planner serves

A Planner that answers every call at once, with a result for each attempt that it carries, is sent
the groups of a cycle's batch in their order, each one once.
-/

namespace CalendarSync
set_option autoImplicit false
open Program Simulation

namespace Moment

/-- A call is answered, with a result for each attempt that it carries; of several results for one
the last counts, and it is of an accepted kind. -/
def serves (accept : ItemResult → Bool) : Moment → Bool
  | ⟨_, .send _ group _ _, .ok results⟩ =>
    group.all fun a => (ItemResult.lastFor? results a.id).any accept
  | ⟨_, .send _ _ _ _, .error _⟩ => false
  | _ => true

/-- Nothing fails, no shutdown comes, and the Planner answers in full. -/
structure Served (accept : ItemResult → Bool) (m : Moment) : Prop where
  stored : m.Stored
  running : m.Running
  served : m.serves accept = true

instance (accept : ItemResult → Bool) (m : Moment) : Decidable (m.Served accept) :=
  decidable_of_iff (m.Stored ∧ m.Running ∧ m.serves accept = true)
    ⟨fun ⟨stored, running, served⟩ => ⟨stored, running, served⟩,
      fun ⟨stored, running, served⟩ => ⟨stored, running, served⟩⟩

/-- A call for attempts, with what it carries. -/
def post? : Moment → Option (Operation × List Attempt)
  | ⟨_, .send op group _ _, _⟩ => some (op, group)
  | _ => none

theorem post?_of_isCall {m : Moment} (other : m.request.isCall = false) : m.post? = none := by
  obtain ⟨store, request, answer⟩ := m
  cases request with
  | send op group correlation limit => cases other
  | _ => rfl

/-- A call that is answered in full is answered for each attempt that it carries. -/
theorem grants_of_serves {accept : ItemResult → Bool} {m : Moment} {op : Operation}
    {group : List Attempt} {a : Attempt} (serves : m.serves accept = true)
    (post : m.post? = some (op, group)) (mem : a ∈ group) : m.grants accept a = true := by
  obtain ⟨store, request, answer⟩ := m
  cases request with
  | send op' group' correlation limit =>
    cases post
    cases answer with
    | ok results =>
      have full : (group.all fun a => (ItemResult.lastFor? results a.id).any accept) = true := serves
      exact Bool.and_eq_true_iff.2 ⟨decide_eq_true mem, List.all_eq_true.1 full a mem⟩
    | error e => cases serves
  | _ => cases post

theorem sent_eq_post? (m : Moment) : m.sent = m.post?.elim [] Prod.snd := by
  obtain ⟨store, request, answer⟩ := m
  cases request <;> rfl

end Moment

/-- The calls for attempts, each with what it carries. -/
def posts (t : List Moment) : List (Operation × List Attempt) :=
  t.filterMap Moment.post?

theorem posts_append (t t' : List Moment) : posts (t ++ t') = posts t ++ posts t' :=
  List.filterMap_append

theorem posts_of_uncalled {t : List Moment} (uncalled : ∀ m ∈ t, m.request.isCall = false) :
    posts t = [] :=
  List.filterMap_eq_nil_iff.2 fun m mem => Moment.post?_of_isCall (uncalled m mem)

/-- What is sent is what the calls carry. -/
theorem flatMap_sent (t : List Moment) : t.flatMap Moment.sent = (posts t).flatMap (·.2) := by
  induction t with
  | nil => rfl
  | cons m t ih =>
    rw [List.flatMap_cons, ih, Moment.sent_eq_post?, posts, posts, List.filterMap_cons]
    cases m.post? <;> simp

namespace Cycle
variable {policy : CallPolicy} {op : Operation} {group : List Attempt} {s after : Store}
  {t t' : List Moment} {accept : ItemResult → Bool} {maxCreates : Nat} {department : String}
  {result : Except DomainError CycleReport}

/-- The turn of a group that is served: it is sent once, and answered. -/
theorem served_sendGroup {answer : Except DomainError (Uuid × List ItemResult)}
    (tries : policy.backoff.maxAttempts ≠ 0) (run : Runs (sendGroup policy op group) s t answer after)
    (served : ∀ m ∈ t, m.Served accept) :
    (∃ value, answer = .ok value) ∧ posts t = [(op, group)] := by
  cases posting_sendGroup run fun m mem => (served m mem).stored with
  | @posted correlation id startedAt endedAt opened _ calls final reply response opens tried replied
      closes =>
    rw [List.forall_mem_append, List.forall_mem_append] at served
    obtain ⟨-, served, -⟩ := served
    have tried := tried.resolve_left fun none => tries none.1
    obtain ⟨results, rfl, rfl⟩ := tried.once (fun m mem => (served m mem).running) fun e mem =>
      absurd (served _ mem).served (by simp [Moment.serves])
    cases reply with
    | ok found =>
      refine ⟨⟨_, rfl⟩, ?_⟩
      rw [posts_append, posts_append]
      rfl
    | error e => cases replied

/-- Sending groups one after the other. -/
theorem served_sendGroups {queue : List Attempt} {b : Batch}
    {groups : List (Operation × List Attempt)} {progress : Progress}
    (tries : policy.backoff.maxAttempts ≠ 0)
    (run : Runs (sendGroups policy queue b groups progress) s t result after)
    (served : ∀ m ∈ t, m.Served accept) : (∃ report, result = .ok report) ∧ posts t = groups := by
  induction groups generalizing s t progress with
  | nil =>
    obtain ⟨rfl, rfl, -⟩ := Service.runs_pure_iff.1 run
    exact ⟨⟨_, rfl⟩, rfl⟩
  | cons head groups ih =>
    obtain ⟨op, group⟩ := head
    cases runs_sendGroups_cons run with
    | shutdown sent =>
      obtain ⟨⟨_, answered⟩, -⟩ := served_sendGroup tries sent served
      cases answered
    | failed sent kept more =>
      rw [List.forall_mem_append] at served
      obtain ⟨⟨_, answered⟩, -⟩ := served_sendGroup tries sent served.1
      cases answered
    | @answered call results syncedAt t₁ t₂ t₃ t₄ progress₁ progress₂ progress₃ s₁ s₂ s₃ _ _ sent
        kept recording closing more =>
      have split : t₁ ++ ⟨s₁, .now, syncedAt⟩ :: (t₂ ++ (t₃ ++ t₄)) =
          t₁ ++ ((⟨s₁, .now, syncedAt⟩ :: (t₂ ++ t₃)) ++ t₄) := by simp
      rw [split, List.forall_mem_append, List.forall_mem_append] at served
      obtain ⟨served₁, -, served₄⟩ := served
      obtain ⟨-, posted⟩ := served_sendGroup tries sent served₁
      obtain ⟨reported, rest⟩ := ih more served₄
      have uncalled : ∀ m ∈ (⟨s₁, .now, syncedAt⟩ : Moment) :: (t₂ ++ t₃),
          m.request.isCall = false := by
        refine List.forall_mem_cons.2 ⟨rfl, List.forall_mem_append.2 ⟨?_, ?_⟩⟩
        · exact only_recordAll.uncalled recording
        · exact only_closeAll.uncalled closing
      refine ⟨reported, ?_⟩
      rw [split, posts_append, posts_append, posted, posts_of_uncalled uncalled, rest]
      rfl

/-- A served cycle clears its queue up to the creates beyond the cap, which it counts. -/
theorem served_run (distinct : (s.attempts.map (·.id)).Nodup)
    (tries : policy.backoff.maxAttempts ≠ 0)
    (run : Runs (Cycle.run policy maxCreates department) s t result after)
    (served : ∀ m ∈ t, m.Served accept) :
    (∃ outcome? resends, Cleared accept maxCreates department s outcome? resends after) ∧
      posts t = (Batch.build (s.pending department) maxCreates).groups ∧
      ∃ report, result = .ok report ∧ report.deferredCreates =
        (Batch.waiting (s.pending department) .create).length - maxCreates := by
  have stored : ∀ m ∈ t, m.Stored := fun m mem => (served m mem).stored
  obtain ⟨⟨report, rfl⟩, posted⟩ : (∃ report, result = .ok report) ∧
      posts t = (Batch.build (s.pending department) maxCreates).groups := by
    obtain ⟨e, rfl, -, -⟩ | ⟨rest, rfl, sent⟩ := runs_run run
    · exact absurd (stored _ (List.mem_singleton_self _)) (fun h => by cases h)
    · obtain ⟨reported, posted⟩ :=
        served_sendGroups tries sent fun m mem => served m (List.mem_cons_of_mem _ mem)
      exact ⟨reported, posted⟩
  have granted : ∀ a ∈ (Batch.build (s.pending department) maxCreates).attempts,
      ∃ m ∈ t, m.grants accept a = true := by
    intro a mem
    obtain ⟨op, grouped⟩ := Batch.mem_attempts.1 mem
    have listed : (op, (Batch.build (s.pending department) maxCreates).group op) ∈ posts t :=
      posted ▸ Batch.mem_groups.2 ⟨rfl, List.ne_nil_of_mem grouped⟩
    obtain ⟨m, here, post⟩ := List.mem_filterMap.1 listed
    exact ⟨m, here, Moment.grants_of_serves (served m here).served post grouped⟩
  refine ⟨cleared_run distinct run stored (.of_grants run stored granted), posted, report, rfl, ?_⟩
  obtain ⟨_, _, -, -, books, -⟩ := books_run distinct run
  have deferred : report.deferredCreates = (Batch.waiting (s.pending department) .create).length -
      (Batch.build (s.pending department) maxCreates).creates.length := books.deferred
  have creates : (Batch.build (s.pending department) maxCreates).creates.length =
      min maxCreates (Batch.waiting (s.pending department) .create).length := by
    rw [← (Attempt.oldestFirst_perm (Batch.waiting _ .create)).length_eq]
    exact List.length_take
  omega

end Cycle
end CalendarSync
