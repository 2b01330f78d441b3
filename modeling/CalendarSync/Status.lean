import CalendarSync.Event

/-!
# The status of an event

Where an event stands relative to the Planner, given the window now seen in the calendar. Only the
latest attempt counts.
-/

namespace CalendarSync
set_option autoImplicit false

/-- Where an event stands relative to the Planner. -/
inductive Status where
  | upToDate
  /-- The calendar item has moved since its latest attempt. -/
  | updated
  | deleted
  /-- The latest attempt has not been answered. -/
  | pending
  /-- Nothing has been proposed yet. -/
  | missing
deriving DecidableEq, Repr

namespace Status

/-- The operation to queue, if any; whoever flags an event as deleted queues its delete. -/
def nextOperation? : Status → Option Operation
  | updated => some .update
  | missing => some .create
  | upToDate | deleted | pending => none

/-- An attempt has to be queued. -/
def requiresAction (s : Status) : Bool :=
  s.nextOperation?.isSome

end Status

/-- The status of an event against the window now seen. -/
def Event.status (e : Event) (seen : Window) : Status :=
  if e.isDeleted then .deleted
  else
    match Attempt.latest? e.attempts with
    | none => .missing
    | some latest =>
      if latest.isPending then .pending
      else if latest.window = seen then .upToDate
      else .updated

end CalendarSync
