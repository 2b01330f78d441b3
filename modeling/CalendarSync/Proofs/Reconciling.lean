import CalendarSync.Proofs.Dating
import CalendarSync.Proofs.Plan
import CalendarSync.Proofs.Repetition
import CalendarSync.Reconciliation

/-!
# Reconciling a department

What one reconciliation can come to, and what it does to the table of resources: its rows stay in
place, only stale ones get a deletion time, and new ones are added at the end.
-/

namespace CalendarSync
set_option autoImplicit false
open Program Simulation

/-- The list that the Planner gives. -/
def Moment.listing? : Moment → Option (List ListedResource)
  | ⟨_, .listResources _ _, .ok listed⟩ => some listed
  | _ => none

/-- The lists that the Planner gave, in order. -/
def listings (t : List Moment) : List (List ListedResource) :=
  t.filterMap Moment.listing?

theorem listings_append (t t' : List Moment) : listings (t ++ t') = listings t ++ listings t' :=
  List.filterMap_append

@[simp] theorem Simulation.Store.insertResources_nil (s : Store) : s.insertResources [] = s := by
  simp [Store.insertResources]

@[simp] theorem Simulation.Store.deleteResources_nil (s : Store) (instant : Timestamp) :
    s.deleteResources [] instant = s := by
  simp [Store.deleteResources]

namespace Reconciliation
variable {s after : Store} {t : List Moment} {department : String}

/-! ## Its parts -/

/-- Asking for the list leaves the tables alone, and fails if no list is given. -/
theorem runs_fetch {policy : CallPolicy} {answer : Except DomainError (List ListedResource)}
    (run : Runs (policy.perform "get_resources"
      (.request (.listResources department policy.limit))) s t answer after) :
    after = s ∧ t.findSome? Moment.listing? = answer.toOption := by
  have once : Asks (fun _ => True) Moment.listing?
      (Program.request (.listResources department policy.limit)) := by
    intro s t answer after run
    obtain ⟨rfl, rfl⟩ := runs_request_iff.1 run
    refine ⟨rfl, by simp, ?_⟩
    cases answer <;> rfl
  have waiting : Moment.Waiting (fun _ => True) Moment.listing? :=
    ⟨fun _ _ _ => ⟨trivial, rfl⟩, fun _ _ _ _ _ => ⟨trivial, rfl⟩⟩
  obtain ⟨same, -, read⟩ := once.perform waiting _ _ _ _ run
  exact ⟨same, read⟩

/-- The new records are made in the order of the list, each with the next identifier. -/
theorem runs_newRecords {createdAt : Timestamp} {l : List ListedResource}
    {result : Except DomainError (List Resource)}
    (run : Runs (newRecords department createdAt l) s t result after) :
    after = s ∧ ∃ rows, result = .ok rows ∧ Resource.Made department createdAt l rows ∧
      rows.map (·.id) = issued t := by
  induction l generalizing s t result after with
  | nil =>
    obtain ⟨rfl, rfl, rfl⟩ := Service.runs_pure_iff.1 run
    exact ⟨rfl, [], rfl, .nil, rfl⟩
  | cons listed l ih =>
    obtain ⟨id, _, _, more, rfl, named, run'⟩ := Service.runs_lift_bind_iff.1 run
    obtain ⟨rfl, rfl⟩ := runs_request_iff.1 named
    obtain ⟨e, -, failed⟩ | ⟨rows, _, rest, _, rfl, made, last⟩ := Service.runs_bind_iff.1 run'
    · obtain ⟨-, _, impossible, -⟩ := ih failed
      cases impossible
    · obtain ⟨rfl, rows, same, made, ids⟩ := ih made
      obtain ⟨rfl, rfl, rfl⟩ := Service.runs_pure_iff.1 last
      cases same
      refine ⟨rfl, _, rfl, .cons ⟨id, rfl⟩ made, ?_⟩
      rw [List.append_nil, List.map_cons, ids]
      rfl

/-- The program turns some tables into others, or else the storage fails. -/
def Turns (s next : Store) (p : Program (Except DomainError Unit)) : Prop :=
  ∀ t answer after, Runs p s t answer after →
    s.Writes (.ok next) answer after ∧ ∀ e, answer = .error e → ∃ m ∈ t, m.fault? = some e

theorem turns_insertResources (s : Store) (rows : List Resource) :
    Turns s (s.insertResources rows) (Program.request (.insertResources rows)) := by
  intro t answer after run
  obtain ⟨wrote, rfl⟩ := runs_request_iff.1 run
  refine ⟨wrote, ?_⟩
  rintro e rfl
  exact ⟨_, List.mem_singleton_self _, rfl⟩

theorem turns_deleteResources (s : Store) (ids : List Uuid) (instant : Timestamp) :
    Turns s (s.deleteResources ids instant) (Program.request (.deleteResources ids instant)) := by
  intro t answer after run
  obtain ⟨wrote, rfl⟩ := runs_request_iff.1 run
  refine ⟨wrote, ?_⟩
  rintro e rfl
  exact ⟨_, List.mem_singleton_self _, rfl⟩

/-- A write that is left out where it would change nothing. -/
theorem runs_write {β : Type} {p : Program (Except DomainError Unit)} {f : Unit → Service β}
    {c : Bool} {next : Store} {result : Except DomainError β} (turns : Turns s next p)
    (idle : c = false → next = s)
    (run : Runs (if c = true then (Service.storage p >>= f : Service β) else f ()) s t result
      after) :
    (∃ e, result = .error e ∧ after = s ∧ ∃ m ∈ t, m.fault? = some e) ∨
      ∃ first rest, t = first ++ rest ∧ Runs (f ()) next rest result after := by
  cases c with
  | false =>
    rw [idle rfl]
    exact .inr ⟨[], t, rfl, run⟩
  | true =>
    obtain ⟨e, rfl, failed⟩ | ⟨u, middle, first, rest, rfl, wrote, run'⟩ :=
      Service.runs_bind_iff.1 run
    · obtain ⟨same, fault⟩ := turns _ _ _ failed
      exact .inl ⟨e, rfl, same, fault e rfl⟩
    · have written : (.ok next : Except DomainError Store) = .ok middle := (turns _ _ _ wrote).1
      cases written
      exact .inr ⟨first, rest, rfl, run'⟩

/-- The writes of a run, with the report that follows them. -/
def applying (plan : Plan) (rows : List Resource) (instant : Timestamp)
    (report : ReconciliationReport) : Service ReconciliationReport := do
  if !rows.isEmpty then
    Service.storage (.request (.insertResources rows))
  if !plan.toDelete.isEmpty then
    Service.storage (.request (.deleteResources plan.toDelete instant))
  return report

theorem runs_applying {plan : Plan} {rows : List Resource} {instant : Timestamp}
    {report : ReconciliationReport} {result : Except DomainError ReconciliationReport}
    (run : Runs (applying plan rows instant report) s t result after) :
    (∃ e, result = .error e ∧ (after = s ∨ after = s.insertResources rows) ∧
        ∃ m ∈ t, m.fault? = some e) ∨
      result = .ok report ∧
        after = (s.insertResources rows).deleteResources plan.toDelete instant := by
  have none : (!rows.isEmpty) = false → s.insertResources rows = s := by
    cases rows <;> simp
  have none' : (!plan.toDelete.isEmpty) = false →
      (s.insertResources rows).deleteResources plan.toDelete instant = s.insertResources rows := by
    cases plan.toDelete <;> simp
  unfold applying at run
  obtain ⟨e, failed, same, fault⟩ | ⟨_, _, rfl, run'⟩ :=
    runs_write (turns_insertResources s rows) none run
  · exact .inl ⟨e, failed, .inl same, fault⟩
  obtain ⟨e, failed, same, m, mem, fault⟩ | ⟨_, _, rfl, last⟩ :=
    runs_write (turns_deleteResources _ plan.toDelete instant) none' run'
  · exact .inl ⟨e, failed, .inr same, m, List.mem_append_right _ mem, fault⟩
  obtain ⟨-, reported, same⟩ := Service.runs_pure_iff.1 last
  exact .inr ⟨reported, same⟩

/-! ## What it comes to -/

/-- What reconciling a department can come to. Nothing changes without the Planner's list, or if the
storage fails before it has taken the new records. If it takes them but deletes nothing, the plan is
applied by half. -/
inductive Ending (department : String) (s : Store) (t : List Moment) :
    Except DomainError ReconciliationReport → Store → Prop where
  | unfetched {e : DomainError} (silent : listings t = []) : Ending department s t (.error e) s
  | unchanged {e : DomainError} {listed : List ListedResource} (fetched : listed ∈ listings t)
      (failed : ∃ m ∈ t, m.fault? = some e) : Ending department s t (.error e) s
  | halfway {e : DomainError} {listed : List ListedResource} {instant : Timestamp}
      {rows : List Resource} (fetched : listed ∈ listings t)
      (failed : ∃ m ∈ t, m.fault? = some e)
      (made : Resource.Made department instant (s.plan department listed).toAdd rows)
      (named : (rows.map (·.id)).Sublist (issued t)) :
      Ending department s t (.error e) (s.insertResources rows)
  | applied {listed : List ListedResource} {instant : Timestamp} {rows : List Resource}
      (fetched : listed ∈ listings t)
      (made : Resource.Made department instant (s.plan department listed).toAdd rows)
      (named : (rows.map (·.id)).Sublist (issued t)) :
      Ending department s t
        (.ok ⟨department, rows.length, (s.plan department listed).toDelete.length,
          (s.plan department listed).ambiguous⟩)
        ((s.insertResources rows).deleteResources (s.plan department listed).toDelete instant)

theorem runs_run {policy : CallPolicy} {result : Except DomainError ReconciliationReport}
    (run : Runs (Reconciliation.run policy department) s t result after) :
    Ending department s t result after := by
  unfold Reconciliation.run at run
  obtain ⟨e, rfl, fetch⟩ | ⟨listed, s₁, t₁, t₂, rfl, fetch, run₁⟩ := Service.runs_bind_iff.1 run
  · obtain ⟨rfl, read⟩ := runs_fetch fetch
    exact .unfetched (List.filterMap_eq_nil_iff.2 (List.findSome?_eq_none_iff.1 read))
  obtain ⟨rfl, read⟩ := runs_fetch fetch
  obtain ⟨m, mem, gives⟩ := List.exists_of_findSome?_eq_some read
  have fetched : listed ∈ listings (t₁ ++ t₂) :=
    List.mem_filterMap.2 ⟨m, List.mem_append_left _ mem, gives⟩
  obtain ⟨e, rfl, failed⟩ | ⟨records, s₂, t₃, t₄, rfl, known, run₂⟩ :=
    Service.runs_bind_iff.1 run₁
  · obtain ⟨⟨rfl, -⟩, rfl⟩ := runs_request_iff.1 failed
    exact .unchanged fetched ⟨_, List.mem_append_right _ (List.mem_singleton_self _), rfl⟩
  obtain ⟨⟨rfl, found⟩, -⟩ := runs_request_iff.1 known
  obtain rfl := found records rfl
  obtain ⟨instant, s₃, t₅, t₆, rfl, clock, run₃⟩ := Service.runs_lift_bind_iff.1 run₂
  obtain ⟨rfl, -⟩ := runs_request_iff.1 clock
  obtain ⟨e, -, failed⟩ | ⟨rows, s₄, t₇, t₈, rfl, new, run₄⟩ := Service.runs_bind_iff.1 run₃
  · obtain ⟨-, _, impossible, -⟩ := runs_newRecords failed
    cases impossible
  obtain ⟨rfl, _, same, made, ids⟩ := runs_newRecords new
  cases same
  have part : t₇.Sublist (t₁ ++ (t₃ ++ (t₅ ++ (t₇ ++ t₈)))) := by
    simp only [← List.append_assoc]
    exact (List.sublist_append_right _ t₇).trans (List.sublist_append_left _ t₈)
  have named := part.filterMap Moment.issued?
  rw [← issued, ← ids] at named
  obtain ⟨e, rfl, same, m, mem, fault⟩ | ⟨rfl, rfl⟩ := runs_applying run₄
  · have failed : ∃ m ∈ t₁ ++ (t₃ ++ (t₅ ++ (t₇ ++ t₈))), m.fault? = some e :=
      ⟨m, by simp [mem], fault⟩
    obtain rfl | rfl := same
    · exact .unchanged fetched failed
    · exact .halfway fetched failed made named
  · exact .applied fetched made named

/-! ## What it does to the table -/

/-- The rows of the table after a run that saw this list: those that are not stale are as before,
and the new ones at the end are active, with keys that are listed once and that the department
lacked. -/
structure Change (department : String) (listed : List ListedResource) (s : Store)
    (t : List Moment) (f : Resource → Resource) (rows : List Resource) (after : Store) : Prop where
  table : after.resources = s.resources.map f ++ rows
  ids : ∀ r, (f r).id = r.id
  alive : ∀ r, ¬ r.isStale department listed = true → f r = r
  active : ∀ r ∈ rows, r.isActiveIn department = true
  missing : ∀ r ∈ rows, ListedOnce listed r.key ∧
    ∀ q ∈ s.resources, q.isActiveIn department = true → q.key ≠ r.key
  distinct : (rows.map (·.key)).Nodup
  named : (rows.map (·.id)).Sublist (issued t)

variable {listed : List ListedResource}

theorem Change.none : Change department listed s t id [] s where
  table := by simp
  ids _ := rfl
  alive _ _ := rfl
  active := by simp
  missing := by simp
  distinct := .nil
  named := List.nil_sublist _

theorem Change.of_made {f : Resource → Resource} {instant : Timestamp} {rows : List Resource}
    (made : Resource.Made department instant (s.plan department listed).toAdd rows)
    (named : (rows.map (·.id)).Sublist (issued t))
    (table : after.resources = s.resources.map f ++ rows) (ids : ∀ r, (f r).id = r.id)
    (alive : ∀ r, ¬ r.isStale department listed = true → f r = r) :
    Change department listed s t f rows after :=
  ⟨table, ids, alive, made.isActiveIn, made.missing,
    made.keys ▸ nodup_toAdd_plan s department listed, named⟩

/-- A row whose key is listed once stays in the table as it is. -/
theorem Change.stays {f : Resource → Resource} {rows : List Resource} {r : Resource}
    (change : Change department listed s t f rows after) (mem : r ∈ s.resources)
    (once : ListedOnce listed r.key) : r ∈ after.resources := by
  rw [change.table]
  refine List.mem_append_left _ (List.mem_map.2 ⟨r, mem, ?_⟩)
  exact change.alive r (Resource.not_isStale once)

section Ending
variable {result : Except DomainError ReconciliationReport}

theorem Ending.change (ending : Ending department s t result after)
    (fixed : ∀ l ∈ listings t, l = listed) (fresh : (s.resources.map (·.id) ++ issued t).Nodup) :
    ∃ f rows, Change department listed s t f rows after := by
  cases ending with
  | unfetched silent => exact ⟨id, [], .none⟩
  | unchanged fetched failed => exact ⟨id, [], .none⟩
  | halfway fetched failed made named =>
    obtain rfl := fixed _ fetched
    exact ⟨id, _, .of_made made named (by simp [Store.insertResources]) (fun _ => rfl)
      fun _ _ => rfl⟩
  | applied fetched made named =>
    obtain rfl := fixed _ fetched
    have distinct := fresh.sublist ((List.Sublist.refl _).append named)
    exact ⟨_, _, .of_made made named (resources_apply distinct) (fun _ => Resource.retire_id)
      fun _ => Resource.retire_of_not_isStale⟩

/-- A run that succeeds settles the department and counts the rows that it changed. -/
theorem Ending.reported {report : ReconciliationReport}
    (ending : Ending department s t (.ok report) after) (fixed : ∀ l ∈ listings t, l = listed)
    (fresh : (s.resources.map (·.id) ++ issued t).Nodup) :
    after.Settled department listed ∧
      report.added = (after.resources.drop s.resources.length).length ∧
      report.deleted = ((s.resources.zip after.resources).countP
        fun p => !p.1.isDeleted && p.2.isDeleted) ∧
      report.ambiguous = Plan.repeatedKeys (listed.map (·.key)) := by
  cases ending with
  | applied fetched made named =>
    obtain rfl := fixed _ fetched
    have distinct := fresh.sublist ((List.Sublist.refl _).append named)
    refine ⟨settled_apply made (resources_apply distinct), ?_, ?_, rfl⟩
    · rw [resources_apply distinct, List.drop_left' (List.length_map _)]
    · rw [resources_apply distinct]
      exact length_toDelete_plan _

/-- In a settled department a run changes nothing and has nothing to count. -/
theorem Ending.stable (ending : Ending department s t result after)
    (fixed : ∀ l ∈ listings t, l = listed) (settled : s.Settled department listed) :
    after = s ∧ ∀ report, result = .ok report → report.added = 0 ∧ report.deleted = 0 := by
  obtain ⟨noAdd, noDelete⟩ : (s.plan department listed).toAdd = [] ∧
      (s.plan department listed).toDelete = [] := by
    simpa [Plan.isEmpty] using isEmpty_plan_iff.2 settled
  cases ending with
  | unfetched silent => exact ⟨rfl, by simp⟩
  | unchanged fetched failed => exact ⟨rfl, by simp⟩
  | halfway fetched failed made named =>
    obtain rfl := fixed _ fetched
    rw [noAdd] at made
    cases made
    exact ⟨by simp, by simp⟩
  | applied fetched made named =>
    obtain rfl := fixed _ fetched
    rw [noAdd] at made
    cases made
    rw [noDelete]
    refine ⟨by simp, fun report same => ?_⟩
    cases same
    exact ⟨rfl, rfl⟩

end Ending
end Reconciliation
end CalendarSync
