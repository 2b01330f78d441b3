import CalendarSync.Proofs.Footprint
import CalendarSync.Proofs.Growth

/-!
# New attempts come last

A cycle dates a new attempt by a reading of the clock, after which it does nothing to the tables
before it adds the attempt. With a clock that is not behind any attempt, what a cycle adds is more
recent than all that it found, as long as identifiers tell which of two attempts of one instant came
later.
-/

namespace CalendarSync
set_option autoImplicit false
open Program Simulation

variable {s after : Store} {t t' : List Moment}

namespace Moment

/-- The clock is not behind the creation of any attempt. -/
def Punctual : Moment → Prop
  | ⟨s, .now, instant⟩ => ∀ a ∈ s.attempts, a.createdAt ≤ instant
  | _ => True

instance : (m : Moment) → Decidable m.Punctual
  | ⟨s, .now, instant⟩ => inferInstanceAs (Decidable (∀ a ∈ s.attempts, a.createdAt ≤ instant))
  | ⟨_, .getEvent _, _⟩ | ⟨_, .saveEvent _, _⟩ | ⟨_, .pendingAttempts _, _⟩
  | ⟨_, .attemptsOf _, _⟩ | ⟨_, .insertAttempt _, _⟩ | ⟨_, .completeAttempt _ _, _⟩
  | ⟨_, .insertCall _, _⟩ | ⟨_, .updateCall _, _⟩ | ⟨_, .resourcesOf _, _⟩
  | ⟨_, .insertResources _, _⟩ | ⟨_, .deleteResources _ _, _⟩ | ⟨_, .send _ _ _ _, _⟩
  | ⟨_, .listResources _ _, _⟩ | ⟨_, .freshId, _⟩ | ⟨_, .isCancelled _, _⟩
  | ⟨_, .pause _ _ _, _⟩ => isTrue trivial

/-- A new attempt has an identifier of its own. -/
def Distinguished (m : Moment) : Prop :=
  ∀ r ∈ m.added?, ∀ a ∈ m.store.attempts, a.id ≠ r.id

instance (m : Moment) : Decidable m.Distinguished :=
  inferInstanceAs (Decidable (∀ r ∈ m.added?, ∀ a ∈ m.store.attempts, a.id ≠ r.id))

/-- The identifier of a new attempt is greater than those of attempts created at the same instant. -/
def Ranked (m : Moment) : Prop :=
  ∀ r ∈ m.added?, ∀ a ∈ m.store.attempts, a.createdAt = r.createdAt → a.id < r.id

instance (m : Moment) : Decidable m.Ranked :=
  inferInstanceAs (Decidable
    (∀ r ∈ m.added?, ∀ a ∈ m.store.attempts, a.createdAt = r.createdAt → a.id < r.id))

/-- A new attempt is more recent than all others, and is none of them. -/
def Latest (m : Moment) : Prop :=
  ∀ r ∈ m.added?, ∀ a ∈ m.store.attempts, a.NotAfter r ∧ a.id ≠ r.id

end Moment

/-! ## The dates of new attempts -/

/-- Each new attempt is dated by the clock while the tables are as they are when it is added. -/
def Stamped (t : List Moment) : Prop :=
  ∀ m ∈ t, ∀ r ∈ m.added?, (⟨m.store, .now, r.createdAt⟩ : Moment) ∈ t

namespace Stamped

theorem of_unadded (unadded : ∀ m ∈ t, m.added? = none) : Stamped t := by
  intro m mem r added
  rw [unadded m mem] at added
  cases added

theorem append (first : Stamped t) (second : Stamped t') : Stamped (t ++ t') := by
  refine List.forall_mem_append.2 ⟨fun m mem r added => ?_, fun m mem r added => ?_⟩
  · exact List.mem_append_left _ (first m mem r added)
  · exact List.mem_append_right _ (second m mem r added)

theorem foldlM {α σ : Type} {f : σ → α → Program σ}
    (each : ∀ value a s t next after, Runs (f value a) s t next after → Stamped t) {l : List α}
    {value result : σ} (run : Runs (l.foldlM f value) s t result after) : Stamped t := by
  induction l generalizing value s t with
  | nil =>
    obtain ⟨rfl, -, -⟩ := runs_pure_iff.1 run
    exact of_unadded (by simp)
  | cons a l ih =>
    rw [List.foldlM_cons] at run
    obtain ⟨next, middle, first, rest, rfl, head, tail⟩ := runs_bind_iff.1 run
    exact (each _ _ _ _ _ _ head).append (ih tail)

/-- With a clock and identifiers that do not fall behind, new attempts are the latest. -/
theorem latest (stamped : Stamped t) (punctual : ∀ m ∈ t, m.Punctual)
    (distinguished : ∀ m ∈ t, m.Distinguished) (ranked : ∀ m ∈ t, m.Ranked) :
    ∀ m ∈ t, m.Latest := by
  intro m mem r added a here
  refine ⟨?_, distinguished m mem r added a here⟩
  have le : a.createdAt ≤ r.createdAt := punctual _ (stamped m mem r added) a here
  rcases Timestamp.lt_or_eq_or_gt a.createdAt r.createdAt with lt | eq | gt
  · exact .inl lt
  · exact .inr ⟨eq, Nat.le_of_lt (ranked m mem r added a here eq)⟩
  · rw [Timestamp.lt_def] at gt
    rw [Timestamp.le_def] at le
    omega

end Stamped

namespace Cycle
variable {policy : CallPolicy}

theorem stamped_recordOne {call : Uuid} {results : List ItemResult} {syncedAt : Timestamp}
    (progress : Progress) (a : Attempt) (s : Store) (t : List Moment) (next : Progress)
    (after : Store) (run : Runs (recordOne call results syncedAt progress a) s t next after) :
    Stamped t := by
  have recording := runs_recordOne run
  generalize next.recorded = recorded at recording
  cases recording with
  | unanswered unknown => exact .of_unadded (by simp)
  | lost e found => exact .of_unadded (List.forall_mem_singleton.2 rfl)
  | closed found wrote lasting => exact .of_unadded (List.forall_mem_singleton.2 rfl)
  | @again r middle _ createdAt id answer found wrote transient proposed =>
    simp only [Stamped, List.forall_mem_cons]
    refine ⟨by simp [Moment.added?], by simp [Moment.added?], by simp [Moment.added?], ?_, by simp⟩
    intro r added
    cases answer with
    | ok u =>
      obtain rfl := Option.some.inj added
      exact List.mem_cons_of_mem _ List.mem_cons_self
    | error e => cases added

theorem stamped_closeOne {b : Batch} (progress : Progress) (a : Attempt) (s : Store)
    (t : List Moment) (next : Progress) (after : Store)
    (run : Runs (closeOne b progress a) s t next after) : Stamped t := by
  obtain ⟨closing, -⟩ := runs_closeOne run
  cases closing with
  | kept unknown => exact .of_unadded (by simp)
  | lost e found => exact .of_unadded (List.forall_mem_singleton.2 rfl)
  | closed found wrote => exact .of_unadded (List.forall_mem_singleton.2 rfl)

theorem stamped_sendGroup {op : Operation} {group : List Attempt}
    {answer : Except DomainError (Uuid × List ItemResult)}
    (run : Runs (sendGroup policy op group) s t answer after) : Stamped t :=
  .of_unadded fun m mem => ((runs_sendGroup run).2.1 m mem).idle.leavesAttempts.2

theorem stamped_sendGroups {queue : List Attempt} {b : Batch}
    {groups : List (Operation × List Attempt)} {progress : Progress}
    {result : Except DomainError CycleReport}
    (run : Runs (sendGroups policy queue b groups progress) s t result after) : Stamped t := by
  induction groups generalizing s t progress with
  | nil =>
    obtain ⟨rfl, -⟩ := runs_sendGroups_nil run
    exact .of_unadded (by simp)
  | cons head groups ih =>
    obtain ⟨op, group⟩ := head
    cases runs_sendGroups_cons run with
    | shutdown sent => exact stamped_sendGroup sent
    | failed sent kept more => exact (stamped_sendGroup sent).append (ih more)
    | @answered call results syncedAt t₁ t₂ t₃ t₄ progress₁ progress₂ progress₃ s₁ s₂ s₃ _ _ sent
        kept recording closing more =>
      have clock : Stamped [⟨s₁, .now, syncedAt⟩] := .of_unadded (List.forall_mem_singleton.2 rfl)
      exact (stamped_sendGroup sent).append (clock.append ((Stamped.foldlM stamped_recordOne
        recording).append ((Stamped.foldlM stamped_closeOne closing).append (ih more))))

/-- A cycle dates its new attempts. -/
theorem stamped_run {maxCreates : Nat} {department : String}
    {result : Except DomainError CycleReport}
    (run : Runs (Cycle.run policy maxCreates department) s t result after) : Stamped t := by
  obtain ⟨e, rfl, -, -⟩ | ⟨rest, rfl, sent⟩ := runs_run run
  · exact .of_unadded (List.forall_mem_singleton.2 rfl)
  · have read : Stamped [⟨s, .pendingAttempts department, .ok (s.pending department)⟩] :=
      .of_unadded (List.forall_mem_singleton.2 rfl)
    exact read.append (stamped_sendGroups sent)

end Cycle

/-! ## Old and new rows -/

namespace Attempt
variable {rows rows' rows'' : List Attempt} {a b p : Attempt}

/-- What the recency of an attempt depends on. -/
def stamp (a : Attempt) : Uuid × Timestamp :=
  (a.id, a.createdAt)

theorem notAfter_congr_left (same : a.stamp = b.stamp) : a.NotAfter p ↔ b.NotAfter p := by
  obtain ⟨id, created⟩ := Prod.mk.inj same
  rw [NotAfter, NotAfter, id, created]

theorem notAfter_congr_right (same : a.stamp = b.stamp) : p.NotAfter a ↔ p.NotAfter b := by
  obtain ⟨id, created⟩ := Prod.mk.inj same
  rw [NotAfter, NotAfter, id, created]

/-- The old rows are still there, and every new one is more recent than they are. -/
structure Succeeds (rows rows' : List Attempt) : Prop where
  distinct : (rows.map (·.id)).Nodup → (rows'.map (·.id)).Nodup
  kept : ∀ a ∈ rows, ∃ p ∈ rows', p.stamp = a.stamp
  newer : ∀ p ∈ rows', (∃ a ∈ rows, p.stamp = a.stamp) ∨ ∀ a ∈ rows, a.NotAfter p

namespace Succeeds

/-- The rows may change otherwise. -/
theorem of_stamps (same : rows'.map stamp = rows.map stamp) : Succeeds rows rows' := by
  refine ⟨fun distinct => ?_, fun a mem => ?_, fun p mem => .inl ?_⟩
  · have ids := congrArg (List.map Prod.fst) same
    rw [List.map_map, List.map_map] at ids
    exact (congrArg List.Nodup ids).mpr distinct
  · exact List.mem_map.1 (same ▸ List.mem_map_of_mem (f := stamp) mem)
  · obtain ⟨a, mem, eq⟩ := List.mem_map.1 (same ▸ List.mem_map_of_mem (f := stamp) mem)
    exact ⟨a, mem, eq.symm⟩

theorem trans (first : Succeeds rows rows') (second : Succeeds rows' rows'') :
    Succeeds rows rows'' := by
  refine ⟨fun distinct => second.distinct (first.distinct distinct), fun a mem => ?_,
    fun p mem => ?_⟩
  · obtain ⟨b, mem, same⟩ := first.kept a mem
    obtain ⟨c, mem, same'⟩ := second.kept b mem
    exact ⟨c, mem, same'.trans same⟩
  · rcases second.newer p mem with ⟨q, mem, same⟩ | newer
    · rcases first.newer q mem with ⟨a, mem, same'⟩ | newer
      · exact .inl ⟨a, mem, same.trans same'⟩
      · exact .inr fun a mem => (notAfter_congr_right same).2 (newer a mem)
    · refine .inr fun a mem => ?_
      obtain ⟨b, mem, same⟩ := first.kept a mem
      exact (notAfter_congr_left same).1 (newer b mem)

/-- A new row that is the latest. -/
theorem append (latest : ∀ b ∈ rows, b.NotAfter a ∧ b.id ≠ a.id) : Succeeds rows (rows ++ [a]) := by
  refine ⟨fun distinct => ?_, fun b mem => ⟨b, List.mem_append_left _ mem, rfl⟩,
    List.forall_mem_append.2 ⟨fun b mem => .inl ⟨b, mem, rfl⟩, ?_⟩⟩
  · rw [List.map_append, List.nodup_append]
    refine ⟨distinct, by simp, fun id old id' new same => ?_⟩
    obtain ⟨b, mem, rfl⟩ := List.mem_map.1 old
    exact (latest b mem).2 (same.trans (List.mem_singleton.1 new))
  · exact List.forall_mem_singleton.2 (.inr fun b mem => (latest b mem).1)

end Succeeds
end Attempt

theorem Moment.Leads.succeeds {m : Moment} (leads : m.Leads after) (latest : m.Latest) :
    Attempt.Succeeds m.store.attempts after.attempts := by
  cases leads with
  | kept same leaves =>
    exact .of_stamps (congrArg (List.map Attempt.stamp) same)
  | added rows added unrecorded =>
    rw [rows]
    exact .append (latest _ added)
  | recorded wrote recorded =>
    obtain ⟨before, row, rest, split, -, -, rows⟩ := Store.attempts_of_completeAttempt wrote
    refine .of_stamps ?_
    rw [split, rows, List.map_append, List.map_append, List.map_cons, List.map_cons]
    rfl

theorem Program.Runs.succeeds {α : Type} {p : Program α} {value : α}
    (run : Runs p s t value after) (latest : ∀ m ∈ t, m.Latest) :
    Attempt.Succeeds s.attempts after.attempts := by
  induction run with
  | done value s => exact .of_stamps rfl
  | @ask r next s middle after answer t value answered rest ih =>
    rw [List.forall_mem_cons] at latest
    exact ((Moment.leads_of_answers answered).succeeds latest.1).trans (ih latest.2)

end CalendarSync
