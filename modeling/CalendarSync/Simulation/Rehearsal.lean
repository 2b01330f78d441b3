import CalendarSync.Backoff
import CalendarSync.Retry

/-!
# Rehearsing retries

A retried call in virtual time, counted in whole milliseconds. The call plays a script, and a
shutdown may come at a given moment. What falls on the same millisecond is ordered: the shutdown
first, then the end of a wait.
-/

namespace CalendarSync.Simulation
set_option autoImplicit false

/-- The answer to a call that takes `delay` milliseconds and may take at most `limit`, together with
the milliseconds until it comes; an answer at the very end still counts. -/
def bounded {α : Type} (limit : Duration) (delay : Nat) (answer : Except PlannerError α) :
    Nat × Except PlannerError α :=
  if delay ≤ limit.waitMillis then (delay, answer)
  else (limit.waitMillis, .error (.timeout limit))

/-- One entry of a script: whether the call requests a shutdown, how long it takes and what it
answers. -/
structure Cue (α : Type) where
  cancel : Bool
  delay : Nat
  answer : Except PlannerError α

/-- A rehearsal under way. -/
structure Rehearsal (α : Type) where
  time : Nat
  cancelled : Bool
  /-- When a shutdown comes from outside. -/
  cancelAt : Option Nat
  /-- The current entry of the script, which stays when it is the last one. -/
  cue : Cue α
  script : List (Cue α)
  /-- When the calls started, the last one first. -/
  calls : List Nat

/-- The steps of a rehearsal; none when a wait is longer than any duration. -/
abbrev Rehearse (α : Type) := StateT (Rehearsal α) Option

namespace Rehearsal
variable {α : Type}

/-- Lets time pass, and with it the moment of the shutdown. -/
def pass (ms : Nat) (r : Rehearsal α) : Rehearsal α :=
  let time := r.time + ms
  { r with time, cancelled := r.cancelled || r.cancelAt.any (· ≤ time) }

/-- Plays the next entry of the script. -/
def call : Rehearse α (Except PlannerError α) := do
  let r ← get
  let cue := r.cue
  let (next, script) := match r.script with
    | [] => (cue, [])
    | next :: script => (next, script)
  set (({ r with
    calls := r.time :: r.calls
    cue := next
    script
    cancelled := r.cancelled || cue.cancel } : Rehearsal α).pass cue.delay)
  return cue.answer

/-- Waits before a retry; a shutdown on the way ends the wait. -/
def pause (policy : Backoff) (retry : Nat) : Rehearse α Bool := do
  let delay ← StateT.lift (policy.delay? retry)
  let r ← get
  if r.cancelled then return true
  let passed := r.pass delay.waitMillis
  match r.cancelAt with
  | some moment =>
    if passed.cancelled then
      set { passed with time := moment }
      return true
  | none => pure ()
  set passed
  return false

/-- The surroundings of a rehearsed call. -/
def host (policy : Backoff) : Retry.Host (Rehearse α) where
  isCancelled := return (← get).cancelled
  pause := pause policy

/-- Rehearses a call of at most `attempts` attempts. -/
def run (policy : Backoff) (label : String) (attempts : Nat) (r : Rehearsal α) :
    Option (Except (RetryFailure PlannerError) α × Rehearsal α) :=
  (Retry.run (host policy) PlannerError.isBusy label attempts call).run (r.pass 0)

end Rehearsal
end CalendarSync.Simulation
