import CalendarSync.Attempt
import CalendarSync.DomainError

/-!
# Outcomes

The meaning of the Planner's error codes, and what became of an attempt. Codes 1 to 14 are fatal,
except that 13 reports an edit made in the Planner itself; six codes are transient. A create that
fails because the item exists and an update that fails because it is gone have outcomes of their
own.
-/

namespace CalendarSync
set_option autoImplicit false

/-- The meaning of an error code. -/
inductive CodeKind where
  | fatal
  | plannerOriginated
  | transient
deriving DecidableEq, Repr

/-- The code of a change that was overtaken by an edit in the Planner. -/
def plannerOriginatedCode : Int32 := 13

/-- The code of a create whose item exists. -/
def itemExistsCode : Int32 := 8

/-- The code of an update whose item is gone. -/
def itemMissingCode : Int32 := 10

/-- The codes of failures that may pass. -/
def transientCodes : List Int32 := [15, 16, 6902, 6903, 6904, 6905]

/-- The meaning of a code; most codes have none. -/
def CodeKind.ofCode? (code : Int32) : Option CodeKind :=
  if code = plannerOriginatedCode then some .plannerOriginated
  else if 1 ≤ code ∧ code ≤ 14 then some .fatal
  else if code ∈ transientCodes then some .transient
  else none

/-- What became of an attempt. -/
inductive Outcome where
  | succeeded
  | createdBefore
  | missingInPlanner
  | plannerOriginated (code : Int32)
  | fatal (code : Int32)
  | transient (code : Int32)
  | unclassified (code : Option Int32)
deriving DecidableEq, Repr

/-- The kinds of failure. -/
inductive Category where
  | fatal
  | plannerOriginated
  | transient
  | unclassified
deriving DecidableEq, Repr

namespace Outcome

/-- The kind of failure; none for a success. -/
def category? : Outcome → Option Category
  | succeeded => none
  | createdBefore | missingInPlanner | fatal _ => some .fatal
  | plannerOriginated _ => some .plannerOriginated
  | transient _ => some .transient
  | unclassified _ => some .unclassified

/-- The error code that an outcome carries. -/
def code? : Outcome → Option Int32
  | succeeded | createdBefore | missingInPlanner => none
  | plannerOriginated code | fatal code | transient code => some code
  | unclassified code => code

/-- The Planner holds the item as proposed, so nothing is left to do. -/
def isEffectiveSuccess : Outcome → Bool
  | succeeded | createdBefore => true
  | _ => false

/-- The attempt may be sent again. -/
def qualifiesForResend : Outcome → Bool
  | transient _ => true
  | _ => false

end Outcome

namespace Attempt

/-- The error code of an attempt that was answered with a failure. -/
def failedCode? (a : Attempt) : Option Int32 :=
  if a.isFailed then a.errorCode else none

/-- The attempt failed with a code of the given meaning. -/
def failedWith (a : Attempt) (kind : CodeKind) : Bool :=
  a.failedCode?.bind CodeKind.ofCode? == some kind

/-- The attempt failed for good. -/
def isFatal (a : Attempt) : Bool := a.failedWith .fatal

/-- The attempt was overtaken by an edit in the Planner. -/
def isPlannerOriginated (a : Attempt) : Bool := a.failedWith .plannerOriginated

/-- The attempt met a failure that may pass. -/
def isTransient (a : Attempt) : Bool := a.failedWith .transient

/-- A create that failed because the item exists. -/
def isCreatedBefore (a : Attempt) : Bool :=
  a.operation == .create && a.failedCode? == some itemExistsCode

/-- An update that failed because the item is gone. -/
def isMissingInPlanner (a : Attempt) : Bool :=
  a.operation == .update && a.failedCode? == some itemMissingCode

/-- The attempt failed with a code, and with one of the transient ones. -/
def qualifiesForResend (a : Attempt) : Bool :=
  a.failedCode?.isSome && !a.isPlannerOriginated && !a.isFatal && a.isTransient

/-- What became of an attempt that has been answered. -/
def outcome (a : Attempt) : Except DomainError Outcome :=
  match a.success with
  | none => .error (.contract s!"sync log {a.id.text} has no remote outcome to classify")
  | some success =>
    if a.syncedAt.isNone then
      .error (.contract s!"sync log {a.id.text} has a remote outcome but no synced_at")
    else if success then .ok .succeeded
    else if a.isCreatedBefore then .ok .createdBefore
    else if a.isMissingInPlanner then .ok .missingInPlanner
    else
      match a.errorCode with
      | none => .ok (.unclassified none)
      | some code =>
        match CodeKind.ofCode? code with
        | some .plannerOriginated => .ok (.plannerOriginated plannerOriginatedCode)
        | some .fatal => .ok (.fatal code)
        | some .transient => .ok (.transient code)
        | none => .ok (.unclassified (some code))

end Attempt
end CalendarSync
