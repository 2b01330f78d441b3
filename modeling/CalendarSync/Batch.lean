import CalendarSync.Attempt

/-!
# Batches

The pending attempts that go out next: the oldest creates up to a cap, the most recent update of
each event, and every delete. Older updates of an event are superseded by its most recent one.
-/

namespace CalendarSync
set_option autoImplicit false

/-- Attempts chosen to be sent, each group from the oldest on. -/
structure Batch where
  creates : List Attempt
  updates : List Attempt
  deletes : List Attempt
  /-- The updates that a more recent one replaced, in ascending order. -/
  superseded : List Uuid
deriving DecidableEq

/-- The updates seen so far: one kept for each event, and the identifiers of those replaced. -/
structure Selection where
  kept : List Attempt
  replaced : List Uuid

namespace Selection

/-- Nothing seen yet. -/
def empty : Selection := ⟨[], []⟩

/-- Sees one more update: of it and the one kept for its event the more recent stays, and the one
seen earlier if they are equally recent. -/
def offer (s : Selection) (update : Attempt) : Selection :=
  match s.kept.find? fun a => a.event = update.event with
  | none => { s with kept := update :: s.kept }
  | some current =>
    if update.NotAfter current then { s with replaced := update.id :: s.replaced }
    else
      { kept := s.kept.map fun a => if a.event = update.event then update else a
        replaced := current.id :: s.replaced }

end Selection

namespace Batch

/-- Builds the next batch from a queue; attempts that have been answered do not count. -/
def build (queue : List Attempt) (maxCreates : Nat) : Batch :=
  let pending (op : Operation) := queue.filter fun a => a.isPending && a.operation == op
  let selection := (pending .update).foldl Selection.offer .empty
  { creates := (Attempt.oldestFirst (pending .create)).take maxCreates
    updates := Attempt.oldestFirst selection.kept
    deletes := Attempt.oldestFirst (pending .delete)
    superseded := selection.replaced.mergeSort fun a b => decide (a ≤ b) }

/-- The number of attempts to be sent. -/
def size (b : Batch) : Nat :=
  b.creates.length + b.updates.length + b.deletes.length

/-- There is nothing to send. -/
def isEmpty (b : Batch) : Bool :=
  b.size == 0

/-- The groups that are not empty, in the order in which they are sent. -/
def groups (b : Batch) : List (Operation × List Attempt) :=
  [(.create, b.creates), (.update, b.updates), (.delete, b.deletes)].filter fun g => !g.2.isEmpty

/-- The update of this batch for the same event. -/
def winner? (b : Batch) (superseded : Attempt) : Option Attempt :=
  b.updates.find? fun a => a.event = superseded.event

end Batch
end CalendarSync
