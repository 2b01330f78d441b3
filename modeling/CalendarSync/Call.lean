import CalendarSync.Attempt

/-!
# Calls to the Planner

The record of one outbound call, which several attempts may share, and the Planner's answer for one
attempt of a call.
-/

namespace CalendarSync
set_option autoImplicit false

/-- The record of an outbound call. -/
structure Call where
  id : Uuid
  /-- Sent along with the call, so that both sides can find it. -/
  correlation : String
  operation : Operation
  startedAt : Timestamp
  endedAt : Option Timestamp
  success : Option Bool
  response : Option String
deriving DecidableEq

namespace Call

/-- The record of a call that has just begun. -/
def start (id : Uuid) (operation : Operation) (correlation : String) (startedAt : Timestamp) :
    Call :=
  ⟨id, correlation, operation, startedAt, none, none, none⟩

/-- Closes the record. -/
def finish (c : Call) (success : Bool) (response : Option String) (endedAt : Timestamp) : Call :=
  { c with success := some success, response := response, endedAt := some endedAt }

/-- The call has not ended yet. -/
def isOpen (c : Call) : Bool :=
  c.endedAt.isNone

end Call

/-- The Planner's answer for one attempt. -/
structure ItemResult where
  attempt : Uuid
  success : Bool
  errorCode : Option Int32
deriving DecidableEq

namespace ItemResult

/-- The answer for an attempt; of several the last one counts. -/
def lastFor? (results : List ItemResult) (attempt : Uuid) : Option ItemResult :=
  results.reverse.find? fun r => r.attempt = attempt

/-- The outcome that an answer gives its attempt. -/
def completion (r : ItemResult) (syncedAt : Timestamp) (call : Uuid) : Completion :=
  if r.success then .succeeded syncedAt (some call)
  else .failed syncedAt r.errorCode (some call)

end ItemResult
end CalendarSync
