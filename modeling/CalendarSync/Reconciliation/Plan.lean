import CalendarSync.Resource

/-!
# Reconciliation plans

What brings a department's records in line with the Planner's list. A mail key that the list holds
more than once is ambiguous: it is not added, and it keeps no record alive.
-/

namespace CalendarSync
set_option autoImplicit false

/-- The changes to a department's records. -/
structure Plan where
  toAdd : List ListedResource
  toDelete : List Uuid
  /-- The keys that are listed more than once, in ascending order. -/
  ambiguous : List String
deriving DecidableEq

namespace Plan

/-- The key is not empty and the list holds it exactly once. -/
def isUnique (keys : List String) (key : String) : Bool :=
  key != "" && keys.count key == 1

/-- The keys that the list holds more than once, each one once and in ascending order. -/
def repeatedKeys (keys : List String) : List String :=
  (keys.filter fun key => key != "" && 1 < keys.count key).eraseDups.mergeSort
    fun a b => decide (a ≤ b)

/-- Compares the Planner's list with the local records of a department. -/
def build (listed : List ListedResource) (records : List Resource) (department : String) : Plan :=
  let keys := listed.map (·.key)
  let active := records.filter fun r => r.isActiveIn department
  let activeKeys := active.map (·.key)
  { toAdd := listed.filter fun r => isUnique keys r.key && !activeKeys.contains r.key
    toDelete := (active.filter fun r => !isUnique keys r.key).map (·.id)
    ambiguous := repeatedKeys keys }

/-- The plan changes nothing. -/
def isEmpty (p : Plan) : Bool :=
  p.toAdd.isEmpty && p.toDelete.isEmpty

end Plan
end CalendarSync
