import CalendarSync.PlannerError

/-!
# Retrying

An action is repeated while it reports that the other side is busy, up to a bound on its attempts.
A shutdown keeps further attempts from starting and cuts the wait between two of them short. The
loop runs in any monad whose host can tell of a shutdown and can wait.
-/

namespace CalendarSync
set_option autoImplicit false

/-- How a retried action fails. -/
inductive RetryFailure (ε : Type) where
  /-- The action failed with something other than being busy. -/
  | operation (source : ε)
  /-- Every attempt found the other side busy; the last one's failure is kept. -/
  | exhausted (attempts : Nat) (source : ε)
  /-- A shutdown came before or during the wait for the next attempt. -/
  | aborted (attempts : Nat)
  | invalid (details : String)
deriving DecidableEq

namespace RetryFailure
variable {ε : Type}

/-- The wording of a failure, given that of the action's own. -/
def message (describe : ε → String) : RetryFailure ε → String
  | operation source => "Operation failed: " ++ describe source
  | exhausted attempts source =>
    s!"Remote still busy after {attempts} attempts: " ++ describe source
  | aborted attempts => s!"Retry aborted due to shutdown after {attempts} attempts"
  | invalid details => "Invalid retry configuration: " ++ details

/-- The number of attempts made, where the failure tells. -/
def attempts? : RetryFailure ε → Option Nat
  | exhausted attempts _ | aborted attempts => some attempts
  | operation _ | invalid _ => none

/-- The action's own failure, if there is one. -/
def source? : RetryFailure ε → Option ε
  | operation source | exhausted _ source => some source
  | aborted _ | invalid _ => none

/-- A shutdown ended the loop. -/
def isShutdown : RetryFailure ε → Bool
  | aborted _ => true
  | _ => false

end RetryFailure

/-- The failure of a retried call to the Planner as an error of the library. A shutdown keeps its
own category, so that callers can stop. -/
def RetryFailure.toDomain (label : String) : RetryFailure PlannerError → DomainError
  | .aborted attempts => .shutdown s!"{label} aborted after {attempts} attempts"
  | .exhausted attempts source =>
    .network (s!"{label} still busy after {attempts} attempts: " ++ source.message)
  | .operation source => source.toDomain
  | .invalid details => .config details

/-- What the loop needs of its surroundings. -/
structure Retry.Host (m : Type → Type) where
  /-- A shutdown has been requested. -/
  isCancelled : m Bool
  /-- Waits before a retry, counted from zero; true when a shutdown cut the wait short. -/
  pause : Nat → m Bool

namespace Retry
variable {m : Type → Type} [Monad m] {ε α : Type}

/-- Makes one attempt after `made` others, and at most `more` after it. -/
def attempt (host : Host m) (isBusy : ε → Bool) (action : m (Except ε α)) (made : Nat) :
    (more : Nat) → m (Except (RetryFailure ε) α)
  | 0 => do
    if ← host.isCancelled then
      return .error (.aborted made)
    match ← action with
    | .ok value => return .ok value
    | .error e =>
      return .error (if isBusy e then .exhausted (made + 1) e else .operation e)
  | more + 1 => do
    if ← host.isCancelled then
      return .error (.aborted made)
    match ← action with
    | .ok value => return .ok value
    | .error e =>
      if isBusy e then
        if ← host.pause made then
          return .error (.aborted (made + 1))
        attempt host isBusy action (made + 1) more
      else
        return .error (.operation e)

/-- Makes up to `maxAttempts` attempts. -/
def run (host : Host m) (isBusy : ε → Bool) (label : String) (maxAttempts : Nat)
    (action : m (Except ε α)) : m (Except (RetryFailure ε) α) :=
  match maxAttempts with
  | 0 => return .error (.invalid s!"{label}: max_attempts must be greater than 0")
  | more + 1 => attempt host isBusy action 0 more

end Retry
end CalendarSync
