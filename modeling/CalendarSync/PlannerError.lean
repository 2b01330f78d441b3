import CalendarSync.DomainError
import CalendarSync.Duration

/-!
# Planner errors

How a single call to the Planner can fail. Only a busy Planner is asked again.
-/

namespace CalendarSync
set_option autoImplicit false

/-- The failure of one call to the Planner. -/
inductive PlannerError where
  /-- The Planner is overloaded; the same call may succeed shortly. -/
  | busy (details : String)
  | transport (details : String)
  /-- The Planner refused the whole call. -/
  | rejected (details : String)
  | timeout (limit : Duration)
deriving DecidableEq

namespace PlannerError

/-- The wording of a Planner error. -/
def message : PlannerError → String
  | busy details => "Planner is busy: " ++ details
  | transport details => "Planner transport error: " ++ details
  | rejected details => "Planner rejected the call: " ++ details
  | timeout limit => "Planner call timed out after " ++ limit.text

/-- The same call may succeed shortly. -/
def isBusy : PlannerError → Bool
  | busy _ => true
  | _ => false

/-- A failed call is a network error. -/
def toDomain (e : PlannerError) : DomainError :=
  .network e.message

end PlannerError
end CalendarSync
