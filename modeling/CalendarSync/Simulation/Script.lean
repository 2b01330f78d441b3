import CalendarSync.Call
import CalendarSync.PlannerError
import CalendarSync.Resource

/-!
# Planner scripts

What a scripted Planner replies to its calls. Each kind of call takes the replies of a queue of its
own; without a reply it answers from standing instructions for items and departments.
-/

namespace CalendarSync.Simulation
set_option autoImplicit false

/-- Which attempt of a call a scripted result is for. -/
inductive ItemTarget where
  | position (index : Nat)
  | attempt (id : Uuid)

/-- A scripted result for one attempt. -/
structure ItemReply where
  target : ItemTarget
  success : Bool
  errorCode : Option Int32

/-- What becomes of an event's item when no results are scripted. -/
inductive ItemFate where
  | succeeds
  | fails (code : Option Int32)
  /-- The Planner gives no result for it. -/
  | ignored

/-- The reply to one call. -/
structure Reply where
  /-- The reply is never used up. -/
  stays : Bool
  /-- A shutdown is requested when the call begins. -/
  cancels : Bool
  /-- Milliseconds until the answer. -/
  delay : Nat
  /-- Milliseconds by which the clock moves before the answer. -/
  clock : Int
  crashes : Bool
  failure : Option PlannerError
  results : Option (List ItemReply)
  listed : Option (List ListedResource)

/-- The reply of a Planner that follows its standing instructions at once. -/
def Reply.standard : Reply :=
  ⟨false, false, 0, 0, false, none, none, none⟩

/-- The kinds of calls to the Planner. -/
inductive CallKind where
  | events (operation : Operation)
  | resources
deriving DecidableEq

/-- What the Planner does. -/
structure Script where
  /-- The replies to the calls of each kind, in order. -/
  replies : CallKind → List Reply
  fates : List (Uuid × ItemFate)
  lists : List (String × List ListedResource)

namespace Script

/-- Takes the next reply to a call. -/
def next (s : Script) (kind : CallKind) : Reply × Script :=
  match s.replies kind with
  | [] => (.standard, s)
  | reply :: rest =>
    if reply.stays then (reply, s)
    else (reply, { s with replies := fun k => if k = kind then rest else s.replies k })

/-- Adds replies and replaces standing instructions. -/
def extend (s : Script) (more : Script) : Script where
  replies := fun kind => s.replies kind ++ more.replies kind
  fates := more.fates ++ s.fates
  lists := more.lists ++ s.lists

/-- The result that an attempt's fate gives it. -/
def fateOf (s : Script) (a : Attempt) : Option ItemResult :=
  match (s.fates.lookup a.event).getD .succeeds with
  | .succeeds => some ⟨a.id, true, none⟩
  | .fails code => some ⟨a.id, false, code⟩
  | .ignored => none

/-- A scripted result; none if the call has no such attempt. -/
def resultOf (attempts : List Attempt) (r : ItemReply) : Option ItemResult :=
  match r.target with
  | .position index => attempts[index]?.map fun a => ⟨a.id, r.success, r.errorCode⟩
  | .attempt id => some ⟨id, r.success, r.errorCode⟩

/-- The results for the attempts of a call. -/
def results (s : Script) (reply : Reply) (attempts : List Attempt) : List ItemResult :=
  match reply.results with
  | some results => results.filterMap (resultOf attempts)
  | none => attempts.filterMap s.fateOf

/-- The list of a department's resources. -/
def listFor (s : Script) (reply : Reply) (department : String) : List ListedResource :=
  (reply.listed.orElse fun _ => s.lists.lookup department).getD []

end Script
end CalendarSync.Simulation
