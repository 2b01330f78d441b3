import CalendarSync.Proofs.Shutdown
import CalendarSync.Proofs.Turns

/-!
# Ticks cover the departments

A tick visits one department after the other, each once for every time it is listed. What a visit
comes to is in the summary, one entry for each step that was not stopped; only a shutdown keeps a
department from being visited in full.
-/

namespace CalendarSync
set_option autoImplicit false
open Program Simulation

/-! ## Visits -/

/-- What the visit of a department comes to; a step that was left out or stopped has no outcome. -/
structure Services.Visit where
  department : String
  reconciliation : Option (Except DomainError ReconciliationReport)
  cycle : Option (Except DomainError CycleReport)

namespace Services.Visit

/-- The report of a step, if it has one. -/
def reports {α : Type} : Option (Except DomainError α) → List α
  | some (.ok report) => [report]
  | _ => []

/-- The error of a step, if it failed. -/
def errors {α : Type} : Option (Except DomainError α) → List DomainError
  | some (.error e) => [e]
  | _ => []

/-- The errors of a visit's steps in their order, each with the department. -/
def failures (v : Visit) : List (String × DomainError) :=
  (errors v.reconciliation ++ errors v.cycle).map (v.department, ·)

end Services.Visit

/-- The summary with the outcomes of further visits. -/
def TickSummary.visited (summary : TickSummary) (visits : List Services.Visit)
    (interrupted : Bool) : TickSummary where
  cycles := summary.cycles ++ visits.flatMap fun v => Services.Visit.reports v.cycle
  reconciliations := summary.reconciliations ++ visits.flatMap fun v =>
    Services.Visit.reports v.reconciliation
  failures := summary.failures ++ visits.flatMap Services.Visit.failures
  interrupted := summary.interrupted || interrupted

namespace Services
variable {services : Services} {token : Token} {wanted : Bool} {department : String} {departments : List String}
  {s after : Store} {t : List Moment} {summary result : TickSummary} {v : Visit}
  {visits : List Visit}

/-- A step goes on unless it ended with a shutdown error. -/
def Unstopped {α : Type} (outcome : Except DomainError α) : Prop :=
  ∀ e, outcome = .error e → e.isShutdown = false

/-- The first step of a visit, which may be left out. -/
inductive Reconciles (services : Services) (wanted : Bool) (department : String) (s : Store) :
    List Moment → Option (Except DomainError ReconciliationReport) → Store → Prop where
  | skipped (off : wanted = false) : Reconciles services wanted department s [] none s
  | done {t : List Moment} {outcome : Except DomainError ReconciliationReport} {after : Store}
      (on : wanted = true) (run : Runs (services.reconcile department) s t outcome after)
      (unstopped : Unstopped outcome) :
      Reconciles services wanted department s t (some outcome) after

/-- A visit in full: after a look for a shutdown the department is reconciled, if wanted, and then
its cycle runs. -/
inductive Visits (services : Services) (token : Token) (wanted : Bool) :
    Visit → Store → List Moment → Store → Prop where
  | visited {department : String} {s middle after : Store} {first second : List Moment}
      {reconciliation : Option (Except DomainError ReconciliationReport)}
      {outcome : Except DomainError CycleReport}
      (reconciles : Reconciles services wanted department s first reconciliation middle)
      (run : Runs (services.cycle department) middle second outcome after)
      (unstopped : Unstopped outcome) :
      Visits services token wanted ⟨department, reconciliation, some outcome⟩ s
        (⟨s, .isCancelled token, false⟩ :: (first ++ second)) after

/-- A visit that a shutdown keeps from being done in full: it is seen before the visit, or it stops
one of the steps. -/
inductive Breaks (services : Services) (token : Token) (wanted : Bool) :
    Visit → Store → List Moment → Store → Prop where
  | before (department : String) (s : Store) :
      Breaks services token wanted ⟨department, none, none⟩ s [⟨s, .isCancelled token, true⟩] s
  | reconciling {department : String} {s after : Store} {t : List Moment} {e : DomainError}
      (on : wanted = true) (run : Runs (services.reconcile department) s t (.error e) after)
      (stopped : e.isShutdown = true) :
      Breaks services token wanted ⟨department, none, none⟩ s (⟨s, .isCancelled token, false⟩ :: t) after
  | cycling {department : String} {s middle after : Store} {first second : List Moment}
      {e : DomainError} {reconciliation : Option (Except DomainError ReconciliationReport)}
      (reconciles : Reconciles services wanted department s first reconciliation middle)
      (run : Runs (services.cycle department) middle second (.error e) after)
      (stopped : e.isShutdown = true) :
      Breaks services token wanted ⟨department, reconciliation, none⟩ s
        (⟨s, .isCancelled token, false⟩ :: (first ++ second)) after

/-- Visits in full, one after the other. -/
inductive VisitsAll (services : Services) (token : Token) (wanted : Bool) :
    List Visit → Store → List Moment → Store → Prop where
  | nil (s : Store) : VisitsAll services token wanted [] s [] s
  | cons {v : Visit} {visits : List Visit} {s middle after : Store} {first rest : List Moment}
      (here : Visits services token wanted v s first middle)
      (more : VisitsAll services token wanted visits middle rest after) :
      VisitsAll services token wanted (v :: visits) s (first ++ rest) after

/-! ## Ticks -/

/-- A step notes its report or its error, unless a shutdown stopped it. -/
theorem runs_step {α : Type} {service : Service α} {note : α → TickSummary → TickSummary}
    {noted : Option TickSummary}
    (run : Runs (step department service note summary) s t noted after) :
    ∃ outcome, Runs service s t outcome after ∧
      ((∃ e, outcome = .error e ∧ e.isShutdown = true ∧ noted = none) ∨
        Unstopped outcome ∧ noted = some (match outcome with
          | .ok report => note report summary
          | .error e => summary.fail department e)) := by
  obtain ⟨outcome, middle, first, rest, rfl, run₁, run₂⟩ := runs_bind_iff.1 run
  change Runs service s first outcome middle at run₁
  cases outcome with
  | ok report =>
    obtain ⟨rfl, rfl, rfl⟩ := runs_pure_iff.1 run₂
    rw [List.append_nil]
    exact ⟨.ok report, run₁, .inr ⟨nofun, rfl⟩⟩
  | error e =>
    cases stopped : e.isShutdown with
    | true =>
      simp only [stopped, if_true] at run₂
      obtain ⟨rfl, rfl, rfl⟩ := runs_pure_iff.1 run₂
      rw [List.append_nil]
      exact ⟨.error e, run₁, .inl ⟨e, rfl, stopped, rfl⟩⟩
    | false =>
      simp only [stopped] at run₂
      obtain ⟨rfl, rfl, rfl⟩ := runs_pure_iff.1 run₂
      rw [List.append_nil]
      refine ⟨.error e, run₁, .inr ⟨?_, rfl⟩⟩
      rintro _ ⟨⟩
      exact stopped

/-- The first step of a visit is stopped, or the summary notes its outcome. -/
theorem runs_reconcileStep {noted : Option TickSummary}
    (run : Runs (services.reconcileStep wanted department summary) s t noted after) :
    (∃ e, wanted = true ∧ Runs (services.reconcile department) s t (.error e) after ∧
      e.isShutdown = true ∧ noted = none) ∨
    ∃ outcome, Reconciles services wanted department s t outcome after ∧
      noted = some (summary.visited [⟨department, outcome, none⟩] false) := by
  unfold reconcileStep at run
  cases on : wanted with
  | false =>
    simp only [on] at run
    obtain ⟨rfl, rfl, rfl⟩ := runs_pure_iff.1 run
    refine .inr ⟨none, .skipped rfl, ?_⟩
    simp [TickSummary.visited, Visit.reports, Visit.failures, Visit.errors]
  | true =>
    simp only [on, if_true] at run
    obtain ⟨outcome, run', ⟨e, rfl, stopped, rfl⟩ | ⟨unstopped, rfl⟩⟩ := runs_step run
    · exact .inl ⟨e, rfl, run', stopped, rfl⟩
    · refine .inr ⟨some outcome, .done rfl run' unstopped, ?_⟩
      cases outcome <;>
        simp [TickSummary.visited, TickSummary.fail, Visit.reports, Visit.failures, Visit.errors]

/-- The second step of a visit is stopped, or the summary notes its outcome too. -/
theorem runs_cycleStep {noted : Option TickSummary}
    {reconciliation : Option (Except DomainError ReconciliationReport)}
    (run : Runs (services.cycleStep department
      (summary.visited [⟨department, reconciliation, none⟩] false)) s t noted after) :
    (∃ e, Runs (services.cycle department) s t (.error e) after ∧ e.isShutdown = true ∧
      noted = none) ∨
    ∃ outcome, Runs (services.cycle department) s t outcome after ∧ Unstopped outcome ∧
      noted = some (summary.visited [⟨department, reconciliation, some outcome⟩] false) := by
  obtain ⟨outcome, run', ⟨e, rfl, stopped, rfl⟩ | ⟨unstopped, rfl⟩⟩ := runs_step run
  · exact .inl ⟨e, run', stopped, rfl⟩
  · refine .inr ⟨outcome, run', unstopped, ?_⟩
    cases outcome <;>
      simp [TickSummary.visited, TickSummary.fail, Visit.reports, Visit.failures, Visit.errors]

theorem visited_visited {more : List Visit} {interrupted : Bool} :
    (summary.visited visits false).visited more interrupted =
      summary.visited (visits ++ more) interrupted := by
  simp [TickSummary.visited]

theorem interrupt_visited :
    (summary.visited visits false).interrupt = summary.visited visits true := by
  simp [TickSummary.visited, TickSummary.interrupt]

/-- A department is visited in full, and the walk goes on behind it, or its visit breaks off the
walk. -/
theorem runs_walk_cons
    (run : Runs (services.walk token wanted (department :: departments) summary) s t result after) :
    (∃ v middle first rest, v.department = department ∧ t = first ++ rest ∧
      Visits services token wanted v s first middle ∧
      Runs (services.walk token wanted departments (summary.visited [v] false)) middle rest result
        after) ∨
    ∃ v, v.department = department ∧ Breaks services token wanted v s t after ∧
      result = summary.visited [v] true := by
  unfold walk at run
  obtain ⟨cancelled, _, _, rfl, rfl, run₁⟩ := runs_request_bind_iff.1 run
  cases cancelled with
  | true =>
    obtain ⟨rfl, rfl, rfl⟩ := runs_pure_iff.1 run₁
    refine .inr ⟨⟨department, none, none⟩, rfl, .before _ _, ?_⟩
    simp [TickSummary.visited, TickSummary.interrupt, Visit.reports, Visit.failures, Visit.errors]
  | false =>
    obtain ⟨noted, middle, first, _, rfl, reconciled, run₂⟩ := runs_bind_iff.1 run₁
    obtain ⟨e, on, stopped, shutdown, rfl⟩ | ⟨outcome, reconciles, rfl⟩ :=
      runs_reconcileStep reconciled
    · obtain ⟨rfl, rfl, rfl⟩ := runs_pure_iff.1 run₂
      rw [List.append_nil]
      refine .inr ⟨⟨department, none, none⟩, rfl, .reconciling on stopped shutdown, ?_⟩
      simp [TickSummary.visited, TickSummary.interrupt, Visit.reports, Visit.failures, Visit.errors]
    · obtain ⟨noted, last, second, rest, rfl, cycled, run₃⟩ := runs_bind_iff.1 run₂
      obtain ⟨e, stopped, shutdown, rfl⟩ | ⟨report, cycle, unstopped, rfl⟩ := runs_cycleStep cycled
      · obtain ⟨rfl, rfl, rfl⟩ := runs_pure_iff.1 run₃
        rw [List.append_nil]
        exact .inr ⟨_, rfl, .cycling reconciles stopped shutdown, interrupt_visited⟩
      · refine .inl ⟨_, last, _, rest, rfl, ?_, .visited reconciles cycle unstopped, run₃⟩
        simp

/-- A walk visits departments in full, all of them or up to one whose visit breaks it off. -/
theorem runs_walk (run : Runs (services.walk token wanted departments summary) s t result after) :
    ∃ visits middle first last, t = first ++ last ∧
      VisitsAll services token wanted visits s first middle ∧
      ((visits.map (·.department) = departments ∧ last = [] ∧ after = middle ∧
        result = summary.visited visits false) ∨
      ∃ v rest, departments = visits.map (·.department) ++ v.department :: rest ∧
        Breaks services token wanted v middle last after ∧
        result = summary.visited (visits ++ [v]) true) := by
  induction departments generalizing s t summary with
  | nil =>
    obtain ⟨rfl, rfl, rfl⟩ := runs_pure_iff.1 run
    refine ⟨[], after, [], [], rfl, .nil after, .inl ⟨rfl, rfl, rfl, ?_⟩⟩
    simp [TickSummary.visited]
  | cons department departments ih =>
    obtain ⟨v, middle, first, rest, rfl, rfl, here, run'⟩ | ⟨v, rfl, breaks, rfl⟩ :=
      runs_walk_cons run
    · obtain ⟨visits, last, more, final, rfl, all, ends⟩ := ih run'
      refine ⟨v :: visits, last, first ++ more, final, (List.append_assoc _ _ _).symm,
        .cons here all, ?_⟩
      refine ends.imp ?_ ?_
      · rintro ⟨rfl, rfl, rfl, rfl⟩
        exact ⟨rfl, rfl, rfl, visited_visited⟩
      · rintro ⟨v', rest, rfl, breaks, rfl⟩
        exact ⟨v', rest, rfl, breaks, visited_visited⟩
    · exact ⟨[], s, [], t, rfl, .nil s, .inr ⟨v, departments, rfl, breaks, rfl⟩⟩

/-! ## What a summary says -/

/-- A reconciliation reports on its department. -/
theorem department_reconcile {report : ReconciliationReport}
    (run : Runs (services.reconcile department) s t (.ok report) after) :
    report.department = department := by
  cases Reconciliation.runs_run run with
  | applied fetched made named => rfl

theorem Reconciles.reports {outcome : Option (Except DomainError ReconciliationReport)}
    (reconciles : Reconciles services wanted department s t outcome after) :
    ((Visit.reports outcome).map (·.department)).Sublist [department] ∧
      (∀ e ∈ Visit.errors outcome, e.isShutdown = false) ∧
      (Visit.reports outcome).length + (Visit.errors outcome).length =
        if wanted then 1 else 0 := by
  cases reconciles with
  | skipped off => simp [Visit.reports, Visit.errors, off]
  | @done t outcome after on run unstopped =>
    cases outcome with
    | ok report => simp [Visit.reports, Visit.errors, on, department_reconcile run]
    | error e => simp [Visit.reports, Visit.errors, on, unstopped e rfl]

/-- What holds of the entries of a visit, done in full or not. -/
structure Entries (v : Visit) : Prop where
  cycles : ((Visit.reports v.cycle).map (·.department)).Sublist [v.department]
  reconciliations : ((Visit.reports v.reconciliation).map (·.department)).Sublist [v.department]
  failures : ∀ f ∈ v.failures, f.1 = v.department ∧ f.2.isShutdown = false

theorem Visits.entries (here : Visits services token wanted v s t after) : Entries v := by
  cases here with
  | @visited department s middle after first second reconciliation outcome reconciles run
      unstopped =>
    obtain ⟨reports, errors, -⟩ := reconciles.reports
    refine ⟨?_, reports, ?_⟩
    · cases outcome with
      | ok report => simp [Visit.reports, Cycle.department_run run]
      | error e => simp [Visit.reports]
    · intro f listed
      obtain ⟨e, mem, rfl⟩ := List.mem_map.1 listed
      refine ⟨rfl, ?_⟩
      rcases List.mem_append.1 mem with mem | mem
      · exact errors e mem
      · cases outcome with
        | ok report => cases mem
        | error e' =>
          obtain rfl := List.mem_singleton.1 mem
          exact unstopped e rfl

theorem Breaks.entries (breaks : Breaks services token wanted v s t after) : Entries v := by
  cases breaks with
  | before department s => exact ⟨List.nil_sublist _, List.nil_sublist _, nofun⟩
  | reconciling on run stopped => exact ⟨List.nil_sublist _, List.nil_sublist _, nofun⟩
  | cycling reconciles run stopped =>
    obtain ⟨reports, errors, -⟩ := reconciles.reports
    refine ⟨List.nil_sublist _, reports, fun f listed => ?_⟩
    obtain ⟨e, mem, rfl⟩ := List.mem_map.1 listed
    exact ⟨rfl, errors e (by simpa [Visit.errors] using mem)⟩

/-- A visit in full has all the outcomes that it can have. -/
theorem Visits.outcomes (here : Visits services token wanted v s t after) :
    v.reconciliation.isSome = wanted ∧ v.cycle.isSome = true := by
  cases here with
  | visited reconciles run unstopped =>
    cases reconciles with
    | skipped off => exact ⟨off.symm, rfl⟩
    | done on run unstopped => exact ⟨on.symm, rfl⟩

theorem Visits.count (here : Visits services token wanted v s t after) :
    (Visit.reports v.cycle).length + (Visit.reports v.reconciliation).length + v.failures.length =
      if wanted then 2 else 1 := by
  cases here with
  | @visited department s middle after first second reconciliation outcome reconciles run
      unstopped =>
    obtain ⟨-, -, count⟩ := reconciles.reports
    have one : (Visit.reports (some outcome)).length +
        (Visit.errors (some outcome)).length = 1 := by
      cases outcome <;> rfl
    simp only [Visit.failures, List.length_map, List.length_append]
    cases wanted with
    | true => rw [if_pos rfl] at count ⊢; omega
    | false => rw [if_neg Bool.false_ne_true] at count ⊢; omega

theorem VisitsAll.forall_mem {P : Visit → Prop}
    (each : ∀ {v s t after}, Visits services token wanted v s t after → P v)
    (all : VisitsAll services token wanted visits s t after) : ∀ v ∈ visits, P v := by
  induction all with
  | nil s => simp
  | cons here more ih => exact List.forall_mem_cons.2 ⟨each here, ih⟩

/-- The entries of visits that were all done in full. -/
theorem VisitsAll.count (all : VisitsAll services token wanted visits s t after) :
    (visits.flatMap fun v => Visit.reports v.cycle).length +
      (visits.flatMap fun v => Visit.reports v.reconciliation).length +
        (visits.flatMap Visit.failures).length = visits.length * if wanted then 2 else 1 := by
  induction all with
  | nil s => simp
  | cons here more ih =>
    have one := here.count
    simp only [List.flatMap_cons, List.length_append, List.length_cons, Nat.add_mul, Nat.one_mul]
    omega

/-- Reports come in the order of the visits. -/
theorem sublist_flatMap {α : Type} {f : Visit → List α} {department : α → String}
    (one : ∀ v ∈ visits, ((f v).map department).Sublist [v.department]) :
    ((visits.flatMap f).map department).Sublist (visits.map (·.department)) := by
  induction visits with
  | nil => exact .slnil
  | cons v visits ih =>
    rw [List.forall_mem_cons] at one
    rw [List.flatMap_cons, List.map_append, List.map_cons, ← List.singleton_append]
    exact one.1.append (ih one.2)

/-- A summary of visits names their departments, in their order, and no shutdown as a failure. -/
theorem visited_entries {interrupted : Bool} (entries : ∀ v ∈ visits, Entries v)
    (early : (visits.map (·.department)).Sublist departments)
    (noted : summary = TickSummary.empty.visited visits interrupted) :
    (summary.cycles.map (·.department)).Sublist departments ∧
      (summary.reconciliations.map (·.department)).Sublist departments ∧
      ∀ f ∈ summary.failures, f.1 ∈ departments ∧ f.2.isShutdown = false := by
  subst noted
  refine ⟨?_, ?_, ?_⟩
  · exact (sublist_flatMap fun v mem => (entries v mem).cycles).trans early
  · exact (sublist_flatMap fun v mem => (entries v mem).reconciliations).trans early
  · intro f listed
    obtain ⟨v, mem, listed⟩ := List.mem_flatMap.1 listed
    obtain ⟨same, unstopped⟩ := (entries v mem).failures f listed
    exact ⟨early.subset (same ▸ List.mem_map_of_mem mem), unstopped⟩

/-- What a tick does for its departments, whatever its steps come to and whenever a shutdown is
seen. It visits departments in full and in order: each one that is listed, or those before the one
whose visit a shutdown breaks off, with which the tick ends. The summary holds the outcomes of these
visits, and of the one that broke off at most that of the reconciliation. If the tick is not
interrupted there is one entry for each step of each department. -/
theorem tick_covers (run : Runs (services.tick token wanted departments) s t summary after) :
    ∃ visits middle first last, t = first ++ last ∧
      VisitsAll services token wanted visits s first middle ∧
      (∀ v ∈ visits, v.reconciliation.isSome = wanted ∧ v.cycle.isSome = true) ∧
      ((visits.map (·.department) = departments ∧ last = [] ∧ after = middle ∧
          summary = TickSummary.empty.visited visits false ∧
          summary.cycles.length + summary.reconciliations.length + summary.failures.length =
            departments.length * if wanted then 2 else 1) ∨
        ∃ v rest, departments = visits.map (·.department) ++ v.department :: rest ∧
          Breaks services token wanted v middle last after ∧ v.cycle = none ∧
          summary = TickSummary.empty.visited (visits ++ [v]) true) ∧
      (summary.cycles.map (·.department)).Sublist departments ∧
      (summary.reconciliations.map (·.department)).Sublist departments ∧
      ∀ f ∈ summary.failures, f.1 ∈ departments ∧ f.2.isShutdown = false := by
  obtain ⟨visits, middle, first, last, rfl, all, ends⟩ := runs_walk run
  have entries : ∀ v ∈ visits, Entries v := all.forall_mem Visits.entries
  refine ⟨visits, middle, first, last, rfl, all, all.forall_mem Visits.outcomes, ?_⟩
  rcases ends with ⟨same, none, kept, noted⟩ | ⟨v, rest, same, breaks, noted⟩
  · refine ⟨.inl ⟨same, none, kept, noted, ?_⟩, visited_entries entries (same ▸ .refl _) noted⟩
    rw [noted, ← same, List.length_map]
    exact all.count
  · have unfinished : v.cycle = .none := by cases breaks <;> rfl
    refine ⟨.inr ⟨v, rest, same, breaks, unfinished, noted⟩, visited_entries ?_ ?_ noted⟩
    · exact List.forall_mem_append.2 ⟨entries, List.forall_mem_singleton.2 breaks.entries⟩
    · rw [same, List.map_append, List.map_singleton]
      exact (List.Sublist.refl _).append (List.singleton_sublist.2 List.mem_cons_self)

/-- Three departments, of which the second one requests a shutdown while it is visited. Its
reconciliation is the last entry, and the third one is not visited. -/
theorem tick_covers_interrupted :
    ∃ summary after,
      Runs (World.sampleServices.tick (.root 0) true ["halls", "rooms", "halls"])
        World.interrupted.store (World.interrupted.moments
          (World.sampleServices.tick (.root 0) true ["halls", "rooms", "halls"])) summary after ∧
      summary.interrupted = true ∧
      (summary.cycles.map (·.department)).Sublist ["halls", "rooms", "halls"] ∧
      ∃ visits v rest,
        ["halls", "rooms", "halls"] = visits.map (·.department) ++ v.department :: rest ∧
          v.cycle = none ∧ summary = TickSummary.empty.visited (visits ++ [v]) true := by
  let tick := World.sampleServices.tick (.root 0) true ["halls", "rooms", "halls"]
  have known : (World.result? (World.interrupted.run tick)).map (·.interrupted) = some true := by
    decide +kernel
  obtain ⟨summary, known, interrupted⟩ := Option.map_eq_some_iff.1 known
  obtain ⟨run, -⟩ := World.runs_of_result? World.interrupted tick rfl known
  obtain ⟨visits, middle, first, last, -, -, -, ends, cycles, -⟩ := tick_covers run
  refine ⟨summary, _, run, interrupted, cycles, ?_⟩
  obtain ⟨-, -, -, rfl, -⟩ | ⟨v, rest, same, -, unfinished, noted⟩ := ends
  · cases interrupted
  · exact ⟨visits, v, rest, same, unfinished, noted⟩

end Services
end CalendarSync
