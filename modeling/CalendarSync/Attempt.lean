import CalendarSync.Operation
import CalendarSync.Timestamp
import CalendarSync.Uuid

/-!
# Attempts

An attempt proposes one operation on one event's item and keeps its outcome. Attempts are compared
by recency: by creation time, and by identifier among those created at the same instant.
-/

namespace CalendarSync
set_option autoImplicit false

/-- Start and end of a calendar item as seen at some moment. -/
structure Window where
  start : Timestamp
  stop : Timestamp
deriving DecidableEq

/-- The outcome of an attempt. -/
structure Completion where
  syncedAt : Timestamp
  success : Bool
  errorCode : Option Int32
  call : Option Uuid
deriving DecidableEq

namespace Completion

/-- The Planner answered with success. -/
def succeeded (instant : Timestamp) (call : Option Uuid) : Completion :=
  ⟨instant, true, none, call⟩

/-- The Planner answered with a failure. -/
def failed (instant : Timestamp) (code : Option Int32) (call : Option Uuid) : Completion :=
  ⟨instant, false, code, call⟩

/-- The attempt was closed without asking the Planner. -/
def withdrawn (instant : Timestamp) : Completion :=
  succeeded instant none

end Completion

/-- One proposed operation on the item of an event, with its outcome once there is one. -/
structure Attempt where
  id : Uuid
  event : Uuid
  operation : Operation
  window : Window
  createdAt : Timestamp
  syncedAt : Option Timestamp
  success : Option Bool
  errorCode : Option Int32
  conflictNotified : Bool
  call : Option Uuid
deriving DecidableEq

namespace Attempt

/-- A new attempt without an outcome. -/
def pending (id event : Uuid) (operation : Operation) (window : Window)
    (createdAt : Timestamp) : Attempt :=
  ⟨id, event, operation, window, createdAt, none, none, none, false, none⟩

/-- A new attempt for the same event and window. -/
def again (a : Attempt) (id : Uuid) (operation : Operation) (createdAt : Timestamp) : Attempt :=
  pending id a.event operation a.window createdAt

/-- The attempt has not been answered yet. -/
def isPending (a : Attempt) : Bool :=
  a.syncedAt.isNone

/-- The attempt was answered with a failure. -/
def isFailed (a : Attempt) : Bool :=
  a.success == some false

/-- Records an outcome; the proposal stays as it is. -/
def complete (a : Attempt) (c : Completion) : Attempt :=
  { a with
    syncedAt := some c.syncedAt
    success := some c.success
    errorCode := c.errorCode
    call := c.call }

/-- The first attempt is no more recent than the second. -/
def NotAfter (a b : Attempt) : Prop :=
  a.createdAt < b.createdAt ∨ (a.createdAt = b.createdAt ∧ a.id ≤ b.id)

instance (a b : Attempt) : Decidable (NotAfter a b) :=
  inferInstanceAs (Decidable (_ ∨ (_ ∧ _)))

/-- The attempts from the oldest to the most recent. -/
def oldestFirst (attempts : List Attempt) : List Attempt :=
  attempts.mergeSort fun a b => decide (NotAfter a b)

/-- The most recent attempt; among equals the one that stands last. -/
def latest? : List Attempt → Option Attempt
  | [] => none
  | a :: rest =>
    match latest? rest with
    | none => some a
    | some b => if NotAfter a b then some b else some a

theorem notAfter_total (a b : Attempt) : NotAfter a b ∨ NotAfter b a := by
  have ids : a.id ≤ b.id ∨ b.id ≤ a.id := Nat.le_total a.id.number b.id.number
  rcases Timestamp.lt_or_eq_or_gt a.createdAt b.createdAt with h | h | h
  · exact .inl (.inl h)
  · exact ids.imp (fun i => .inr ⟨h, i⟩) (fun i => .inr ⟨h.symm, i⟩)
  · exact .inr (.inl h)

theorem latest?_eq_none_iff (attempts : List Attempt) :
    latest? attempts = none ↔ attempts = [] := by
  cases attempts with
  | nil => simp [latest?]
  | cons a rest =>
    simp only [latest?, reduceCtorEq, iff_false]
    split
    · simp
    · split <;> simp

end Attempt
end CalendarSync
