import CalendarSync.Cycle
import CalendarSync.Reconciliation

/-!
# The worker's ticks

A tick walks the configured departments in order: resources are reconciled first, if wanted, and
then one cycle runs. A failure does not keep the later steps from running; a shutdown does.
-/

namespace CalendarSync
set_option autoImplicit false

/-- What one tick did. -/
structure TickSummary where
  cycles : List CycleReport
  reconciliations : List ReconciliationReport
  /-- The department and the error of every failed step. -/
  failures : List (String × DomainError)
  /-- A shutdown came before every department was processed. -/
  interrupted : Bool
deriving DecidableEq

namespace TickSummary

/-- Nothing done yet. -/
def empty : TickSummary := ⟨[], [], [], false⟩

/-- Every step succeeded and no shutdown came. -/
def isClean (s : TickSummary) : Bool :=
  s.failures.isEmpty && !s.interrupted

/-- Notes the failure of a step. -/
def fail (s : TickSummary) (department : String) (e : DomainError) : TickSummary :=
  { s with failures := s.failures ++ [(department, e)] }

/-- Notes that a shutdown came. -/
def interrupt (s : TickSummary) : TickSummary :=
  { s with interrupted := true }

end TickSummary

/-- The two services, as a worker needs them. -/
structure Services where
  /-- How cycles call the Planner. -/
  sending : CallPolicy
  maxCreates : Nat
  /-- How reconciliations call the Planner. -/
  listing : CallPolicy

namespace Services

/-- Runs one cycle for a department. -/
def cycle (s : Services) (department : String) : Service CycleReport :=
  Cycle.run s.sending s.maxCreates department

/-- Reconciles the resources of a department. -/
def reconcile (s : Services) (department : String) : Service ReconciliationReport :=
  Reconciliation.run s.listing department

/-- Runs a step and notes its report or its failure; a shutdown is answered as `none`. -/
def step {α : Type} (department : String) (service : Service α)
    (note : α → TickSummary → TickSummary) (summary : TickSummary) :
    Program (Option TickSummary) := do
  match ← service.run with
  | .ok report => return some (note report summary)
  | .error e => return if e.isShutdown then none else some (summary.fail department e)

/-- Reconciles a department's resources, if wanted, and notes the result. -/
def reconcileStep (s : Services) (wanted : Bool) (department : String) (summary : TickSummary) :
    Program (Option TickSummary) :=
  if wanted then
    step department (s.reconcile department)
      (fun report t => { t with reconciliations := t.reconciliations ++ [report] }) summary
  else return some summary

/-- Runs a department's cycle and notes the result. -/
def cycleStep (s : Services) (department : String) (summary : TickSummary) :
    Program (Option TickSummary) :=
  step department (s.cycle department)
    (fun report t => { t with cycles := t.cycles ++ [report] }) summary

/-- Walks the departments in order, for a worker with a shutdown token. -/
def walk (s : Services) (token : Token) (reconcileResources : Bool) :
    List String → TickSummary → Program TickSummary
  | [], summary => return summary
  | department :: rest, summary => do
    if ← .request (.isCancelled token) then
      return summary.interrupt
    match ← s.reconcileStep reconcileResources department summary with
    | none => return summary.interrupt
    | some reconciled =>
      match ← s.cycleStep department reconciled with
      | none => return reconciled.interrupt
      | some cycled => s.walk token reconcileResources rest cycled

/-- Runs one tick. -/
def tick (s : Services) (token : Token) (reconcileResources : Bool) (departments : List String) :
    Program TickSummary :=
  s.walk token reconcileResources departments .empty

end Services
end CalendarSync
