import CalendarSync.Program
import CalendarSync.Reconciliation.Plan

/-!
# Reconciliation

Fetches the Planner's list for a department and applies the plan that brings the local records in
line with it.
-/

namespace CalendarSync
set_option autoImplicit false

/-- What a reconciliation changed. -/
structure ReconciliationReport where
  department : String
  added : Nat
  deleted : Nat
  ambiguous : List String
deriving DecidableEq

namespace Reconciliation

/-- New records of listed resources, each with an identifier of its own. -/
def newRecords (department : String) (createdAt : Timestamp) :
    List ListedResource → Service (List Resource)
  | [] => return []
  | listed :: rest => do
    let record := Resource.ofListed (← Service.freshId) listed department createdAt
    return record :: (← newRecords department createdAt rest)

/-- Reconciles one department. -/
def run (policy : CallPolicy) (department : String) : Service ReconciliationReport := do
  let listed ← Service.storage (policy.perform "get_resources"
    (.request (.listResources department policy.limit)))
  let records ← Service.storage (.request (.resourcesOf department))
  let now ← Service.now
  let plan := Plan.build listed records department
  let added ← newRecords department now plan.toAdd
  if !added.isEmpty then
    Service.storage (.request (.insertResources added))
  if !plan.toDelete.isEmpty then
    Service.storage (.request (.deleteResources plan.toDelete now))
  return ⟨department, added.length, plan.toDelete.length, plan.ambiguous⟩

end Reconciliation
end CalendarSync
