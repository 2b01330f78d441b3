import CalendarSync.Proofs.Once
import CalendarSync.Proofs.Reconciling
import CalendarSync.Proofs.World

/-!
# Reconciling again and again

Reconciliations of a department one after the other, any of which may fail at any point, while the
Planner's list stays the same. The first one that succeeds settles the department, also where others
have left a plan applied by half, and after it nothing is left to do.
-/

namespace CalendarSync
set_option autoImplicit false
open Program Simulation
open Reconciliation (Change Ending)

/-- One reconciliation, with the tables before and after it. -/
structure Visit where
  before : Store
  trace : List Moment
  result : Except DomainError ReconciliationReport
  after : Store

/-- The rows that a reconciliation appends. -/
def Visit.added (v : Visit) : List Resource :=
  v.after.resources.drop v.before.resources.length

/-- How many rows get a deletion time that had none. -/
def Visit.deleted (v : Visit) : Nat :=
  (v.before.resources.zip v.after.resources).countP fun p => !p.1.isDeleted && p.2.isDeleted

/-- Reconciliations of a department one after the other lead from some tables to others. -/
inductive Series (department : String) (s₀ : Store) : List Visit → Store → Prop where
  | start : Series department s₀ [] s₀
  | next {visits : List Visit} {s after : Store} {policy : CallPolicy} {t : List Moment}
      {result : Except DomainError ReconciliationReport} (past : Series department s₀ visits s)
      (run : Runs (Reconciliation.run policy department) s t result after) :
      Series department s₀ (visits ++ [⟨s, t, result, after⟩]) after

/-- The moments of all reconciliations. -/
def visited (visits : List Visit) : List Moment :=
  visits.flatMap (·.trace)

theorem visited_append (visits more : List Visit) :
    visited (visits ++ more) = visited visits ++ visited more :=
  List.flatMap_append

theorem visited_singleton (v : Visit) : visited [v] = v.trace := by
  simp [visited]

/-- What holds of a single reconciliation against this list. -/
structure Visit.Faithful (department : String) (listed : List ListedResource) (v : Visit) :
    Prop where
  /-- Rows of other departments, deleted rows and rows whose key is listed once stay as they are. -/
  kept : ∀ (i : Nat) (r : Resource), v.before.resources[i]? = some r →
    r.department ≠ department ∨ r.isDeleted = true ∨ ListedOnce listed r.key →
      v.after.resources[i]? = some r
  /-- Without a list nothing changes. -/
  unfetched : listings v.trace = [] → v.after = v.before ∧ ∃ e, v.result = .error e
  /-- With a list, only the storage can make it fail. -/
  succeeds : listings v.trace ≠ [] → (∀ m ∈ v.trace, m.Stored) → ∃ report, v.result = .ok report
  settled : ∀ report, v.result = .ok report → v.after.Settled department listed
  counted : ∀ report, v.result = .ok report →
    report.added = v.added.length ∧ report.deleted = v.deleted

/-- What holds of reconciliations one after the other against this list. -/
structure Converges (department : String) (listed : List ListedResource) (visits : List Visit) :
    Prop where
  faithful : ∀ v ∈ visits, v.Faithful department listed
  /-- After a success nothing changes any more. -/
  stable : visits.Pairwise fun v w => ∀ report, v.result = .ok report →
    w.after = w.before ∧ ∀ report', w.result = .ok report' →
      report'.added = 0 ∧ report'.deleted = 0 ∧ report'.ambiguous = report.ambiguous
  /-- No address is added twice. -/
  once : ((visits.flatMap Visit.added).map (·.key)).Nodup

/-! ## The invariant -/

/-- Where reconciliations have led so far. The rows that they added are still active, and the
department is settled once one of them has succeeded. -/
structure Standing (department : String) (listed : List ListedResource) (s₀ : Store)
    (visits : List Visit) (s : Store) : Prop where
  converges : Converges department listed visits
  ids : s.resources.map (·.id) =
    s₀.resources.map (·.id) ++ (visits.flatMap Visit.added).map (·.id)
  named : ((visits.flatMap Visit.added).map (·.id)).Sublist (issued (visited visits))
  present : ∀ r ∈ visits.flatMap Visit.added,
    r ∈ s.resources ∧ r.isActiveIn department = true ∧ ListedOnce listed r.key
  settled : ∀ v ∈ visits, ∀ report, v.result = .ok report →
    s.Settled department listed ∧ report.ambiguous = Plan.repeatedKeys (listed.map (·.key))

section Steps
variable {department : String} {listed : List ListedResource} {s₀ s after : Store}
  {visits : List Visit} {t : List Moment} {result : Except DomainError ReconciliationReport}

theorem Standing.initial : Standing department listed s₀ [] s₀ where
  converges := ⟨by simp, .nil, .nil⟩
  ids := by simp
  named := .slnil
  present := by simp
  settled := by simp

/-- New identifiers differ from those of all rows so far. -/
theorem Standing.fresh (standing : Standing department listed s₀ visits s)
    (fresh : (s₀.resources.map (·.id) ++ issued (visited visits ++ t)).Nodup) :
    (s.resources.map (·.id) ++ issued t).Nodup := by
  rw [issued_append, ← List.append_assoc] at fresh
  rw [standing.ids]
  exact fresh.sublist (.append (.append (.refl _) standing.named) (.refl _))

/-- The rows at the end of the table after a run are those that it added. -/
theorem added_of_change {f : Resource → Resource} {rows : List Resource}
    (change : Change department listed s t f rows after) :
    Visit.added ⟨s, t, result, after⟩ = rows := by
  rw [Visit.added, change.table, List.drop_left' (List.length_map f)]

theorem faithful_of_ending (ending : Ending department s t result after)
    (fixed : ∀ l ∈ listings t, l = listed) (fresh : (s.resources.map (·.id) ++ issued t).Nodup) :
    Visit.Faithful department listed ⟨s, t, result, after⟩ := by
  obtain ⟨f, rows, change⟩ := ending.change fixed fresh
  constructor
  case kept =>
    intro i r found spared
    have alive : ¬ r.isStale department listed = true := by
      rw [Resource.isStale_iff, Resource.isActiveIn_iff]
      rintro ⟨⟨here, live⟩, unlisted⟩
      obtain elsewhere | deleted | once := spared
      · exact elsewhere here
      · rw [live] at deleted
        cases deleted
      · exact unlisted once
    obtain ⟨inside, -⟩ := List.getElem?_eq_some_iff.1 found
    rw [change.table, List.getElem?_append_left (by simpa using inside), List.getElem?_map, found]
    exact congrArg some (change.alive r alive)
  case unfetched =>
    intro silent
    have nothing : ∀ l, ¬ l ∈ listings t := by simp [silent]
    cases ending with
    | unfetched silent => exact ⟨rfl, _, rfl⟩
    | unchanged fetched failed => exact (nothing _ fetched).elim
    | halfway fetched failed made named => exact (nothing _ fetched).elim
    | applied fetched made named => exact (nothing _ fetched).elim
  case succeeds =>
    intro heard stored
    have sound : ∀ e, ¬ ∃ m ∈ t, m.fault? = some e := by
      rintro e ⟨m, mem, fault⟩
      rw [stored m mem] at fault
      cases fault
    cases ending with
    | unfetched silent => exact (heard silent).elim
    | unchanged fetched failed => exact (sound _ failed).elim
    | halfway fetched failed made named => exact (sound _ failed).elim
    | applied fetched made named => exact ⟨_, rfl⟩
  case settled =>
    rintro report rfl
    exact (ending.reported fixed fresh).1
  case counted =>
    rintro report rfl
    obtain ⟨-, added, deleted, -⟩ := ending.reported fixed fresh
    exact ⟨added, deleted⟩

/-- One more run keeps the invariant, whatever becomes of it. -/
theorem Standing.next (standing : Standing department listed s₀ visits s)
    (ending : Ending department s t result after) (fixed : ∀ l ∈ listings t, l = listed)
    (fresh : (s₀.resources.map (·.id) ++ issued (visited visits ++ t)).Nodup) :
    Standing department listed s₀ (visits ++ [⟨s, t, result, after⟩]) after := by
  have fresh := standing.fresh fresh
  obtain ⟨f, rows, change⟩ := ending.change fixed fresh
  have added : (visits ++ [(⟨s, t, result, after⟩ : Visit)]).flatMap Visit.added =
      visits.flatMap Visit.added ++ rows := by
    rw [List.flatMap_append, List.flatMap_singleton, added_of_change change]
  constructor
  case converges =>
    constructor
    case faithful =>
      refine List.forall_mem_append.2 ⟨standing.converges.faithful, ?_⟩
      simpa using faithful_of_ending ending fixed fresh
    case stable =>
      refine List.pairwise_append.2 ⟨standing.converges.stable, List.pairwise_singleton _ _, ?_⟩
      intro v mem w last report succeeded
      obtain rfl := List.mem_singleton.1 last
      obtain ⟨settled, ambiguous⟩ := standing.settled v mem report succeeded
      obtain ⟨same, idle⟩ := ending.stable fixed settled
      refine ⟨same, ?_⟩
      rintro report' rfl
      obtain ⟨-, -, -, ambiguous'⟩ := ending.reported fixed fresh
      exact ⟨(idle report' rfl).1, (idle report' rfl).2, ambiguous'.trans ambiguous.symm⟩
    case once =>
      rw [added, List.map_append]
      refine List.nodup_append.2 ⟨standing.converges.once, change.distinct, ?_⟩
      intro key old key' new
      obtain ⟨r, earlier, rfl⟩ := List.mem_map.1 old
      obtain ⟨q, now, rfl⟩ := List.mem_map.1 new
      obtain ⟨mem, active, -⟩ := standing.present r earlier
      exact (change.missing q now).2 r mem active
  case ids =>
    have same : (·.id) ∘ f = (·.id) := funext change.ids
    rw [added, change.table, List.map_append, List.map_append, List.map_map, same, standing.ids,
      List.append_assoc]
  case named =>
    rw [added, visited_append, visited_singleton, issued_append, List.map_append]
    exact standing.named.append change.named
  case present =>
    rw [added]
    refine List.forall_mem_append.2 ⟨fun r mem => ?_, fun r mem => ?_⟩
    · obtain ⟨here, active, once⟩ := standing.present r mem
      exact ⟨change.stays here once, active, once⟩
    · rw [change.table]
      exact ⟨List.mem_append_right _ mem, change.active r mem, (change.missing r mem).1⟩
  case settled =>
    refine List.forall_mem_append.2 ⟨fun v mem report succeeded => ?_, ?_⟩
    · obtain ⟨settled, ambiguous⟩ := standing.settled v mem report succeeded
      exact ⟨(ending.stable fixed settled).1 ▸ settled, ambiguous⟩
    · intro v last report succeeded
      obtain rfl := List.mem_singleton.1 last
      obtain rfl : result = .ok report := succeeded
      obtain ⟨settled, -, -, ambiguous⟩ := ending.reported fixed fresh
      exact ⟨settled, ambiguous⟩

theorem Series.standing (series : Series department s₀ visits s)
    (fixed : ∀ l ∈ listings (visited visits), l = listed)
    (fresh : (s₀.resources.map (·.id) ++ issued (visited visits)).Nodup) :
    Standing department listed s₀ visits s := by
  induction series with
  | start => exact .initial
  | next past run ih =>
    rw [visited_append, visited_singleton] at fixed fresh
    rw [listings_append] at fixed
    obtain ⟨fixed, fixed'⟩ := List.forall_mem_append.1 fixed
    have earlier := fresh.sublist (.append (.refl _) (.filterMap _ (List.sublist_append_left _ _)))
    exact (ih fixed earlier).next (Reconciliation.runs_run run) fixed' fresh

end Steps

/-- Against a list that stays the same, reconciliations of a department converge, whichever of them
fail. Identifiers are all different, those of the rows at the beginning as well as new ones. -/
theorem converges_series {department : String} {listed : List ListedResource} {s₀ s : Store}
    {visits : List Visit} (series : Series department s₀ visits s)
    (fixed : ∀ l ∈ listings (visited visits), l = listed)
    (fresh : (s₀.resources.map (·.id) ++ issued (visited visits)).Nodup) :
    Converges department listed visits :=
  (series.standing fixed fresh).converges

/-- A list that holds Bob's address twice, and one that is blank. -/
def Simulation.World.staffList : List ListedResource :=
  [⟨" Ada", some "field", none, none⟩, ⟨"bob", none, none, none⟩,
    ⟨"\tCleo", none, some "PR-17", none⟩, ⟨"BOB", none, none, none⟩,
    ⟨"  ", none, none, none⟩]

/-- A department with two records of one address, a blank address and a deleted record, besides
another department, and a storage that is locked at the first deletion. -/
def Simulation.World.staff : World :=
  let created := atSecond 1000
  let record (id : Nat) (department mail : String) (deletedAt : Option Timestamp) : Resource :=
    ⟨.ofNat id, department, mail, none, deletedAt, none, none, none, created⟩
  Session.world (atSecond 2000)
    ⟨[], [], [], [record 1 "rooms" "ada" none, record 2 "rooms" "Bob" none,
      record 3 "labs" "eve" none, record 4 "rooms" " ADA" none,
      record 5 "rooms" "" none, record 6 "rooms" "cleo" (some created)]⟩
    ⟨fun _ => [], [], [("rooms", staffList)]⟩ [(.deleteResources, some ⟨.database, "locked"⟩)] false

/-- The first reconciliation adds Cleo and fails, the second one deletes two records, and the third
one has nothing to do. -/
theorem converges_staff : ∃ visits s, Series "rooms" World.staff.store visits s ∧
    visits.map (·.result) = [.error ⟨.database, "locked"⟩,
      .ok ⟨"rooms", 0, 2, ["bob"]⟩, .ok ⟨"rooms", 0, 0, ["bob"]⟩] ∧
    visits.map (·.added.length) = [1, 0, 0] ∧ Converges "rooms" World.staffList visits := by
  let program := Reconciliation.run World.samplePolicy "rooms"
  let second := (World.staff.run program).1
  let third := (second.run program).1
  obtain ⟨run₁, tight₁⟩ := World.runs_of_result? World.staff program rfl
    (show _ = some (Except.error ⟨.database, "locked"⟩) by decide +kernel)
  obtain ⟨run₂, tight₂⟩ := World.runs_of_result? second program tight₁
    (show _ = some (Except.ok ⟨"rooms", 0, 2, ["bob"]⟩) by decide +kernel)
  obtain ⟨run₃, -⟩ := World.runs_of_result? third program tight₂
    (show _ = some (Except.ok ⟨"rooms", 0, 0, ["bob"]⟩) by decide +kernel)
  have series := ((Series.start.next run₁).next run₂).next run₃
  refine ⟨_, _, series, ?_, ?_, converges_series series ?_ ?_⟩
  · rfl
  · decide +kernel
  · decide +kernel
  · decide +kernel

end CalendarSync
