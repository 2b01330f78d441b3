import CalendarSync.Program
import CalendarSync.Simulation.Rehearsal
import CalendarSync.Simulation.Script
import CalendarSync.Simulation.Store

/-!
# The world

The surroundings of the services in a simulation: tables in memory that can be told to fail, a
scripted Planner, a clock that only moves when told to, shutdown tokens, and a time in whole
milliseconds that passes only in waits. A request is answered at once, or it waits.
-/

namespace CalendarSync.Simulation
set_option autoImplicit false

/-- The ways in which the services use the storage. -/
inductive Access where
  | getEvent
  | saveEvent
  | pendingAttempts
  | attemptsOf
  | insertAttempt
  | completeAttempt
  | insertCall
  | updateCall
  | resourcesOf
  | insertResources
  | deleteResources
deriving DecidableEq, Repr

/-- A request to the storage or the Planner, as it was recorded. -/
structure Entry where
  time : Nat
  request : Request
  fault : Option DomainError

/-- The surroundings of the services. -/
structure World where
  /-- Milliseconds since the start. -/
  time : Nat
  clock : Timestamp
  store : Store
  script : Script
  /-- Planned failures of storage requests; each request takes the first entry of its kind. -/
  faults : List (Access × Option DomainError)
  /-- The storage lists answered attempts as pending too. -/
  leaky : Bool
  /-- How many identifiers have been issued. -/
  issued : Nat
  /-- The number of the shutdown token in use, which the Planner can cancel. -/
  generation : Nat
  /-- The tokens that have been cancelled. -/
  cancelled : List Token
  /-- The recorded requests, the last one first. -/
  trace : List Entry

/-- The identifier issued after `n` others: those that start with zeros are smaller. -/
def issuedId (n : Nat) : Uuid :=
  Uuid.ofNat (0x01900000000070008000000000000000 + n)

/-- What a waiting request waits for. -/
structure Wait (r : Request) where
  /-- What the request comes to when the wait is over; no answer if its task breaks down. -/
  complete : World → World × Option r.Answer
  /-- The token by which a shutdown cuts the wait short, and the answer then, where one does. -/
  onShutdown : Option (Token × r.Answer)

/-- What becomes of a request. -/
inductive Reaction (r : Request) where
  | answered (answer : r.Answer)
  /-- The answer is due at a later time. -/
  | waiting (due : Nat) (wait : Wait r)
  /-- The requesting task breaks down. -/
  | crashed

namespace World

/-- The shutdown token in use. -/
def token (w : World) : Token :=
  .root w.generation

/-- The token has been cancelled. -/
def isCancelled (w : World) (token : Token) : Bool :=
  token.isCancelled w.cancelled

/-- Cancels a token. -/
def cancel (w : World) (token : Token) : World :=
  if w.isCancelled token then w else { w with cancelled := token :: w.cancelled }

/-- The answer to a wait that a shutdown has cut short. -/
def cut? (w : World) {r : Request} (wait : Wait r) : Option r.Answer :=
  match wait.onShutdown with
  | some (token, answer) => if w.isCancelled token then some answer else none
  | none => none

/-- Records a request. -/
def record (w : World) (request : Request) (fault : Option DomainError) : World :=
  { w with trace := ⟨w.time, request, fault⟩ :: w.trace }

/-- Takes the planned failure of a storage request, if any. -/
def takeFault (w : World) (access : Access) : Option DomainError × World :=
  match w.faults.find? fun f => f.1 = access with
  | none => (none, w)
  | some (_, fault) => (fault, { w with faults := w.faults.eraseP fun f => f.1 = access })

/-- A storage request: it is recorded, and fails as planned before anything is done. -/
def storage {α : Type} (w : World) (access : Access) (r : Request)
    (act : Store → Except DomainError (α × Store)) : World × Except DomainError α :=
  let (fault, w) := w.takeFault access
  let w := w.record r fault
  match fault with
  | some e => (w, .error e)
  | none =>
    match act w.store with
    | .ok (a, store) => ({ w with store }, .ok a)
    | .error e => (w, .error e)

/-- Reads the tables. -/
def reading {α : Type} (f : Store → α) (s : Store) : Except DomainError (α × Store) :=
  .ok (f s, s)

/-- Changes the tables. -/
def writing (f : Store → Except DomainError Store) (s : Store) :
    Except DomainError (Unit × Store) :=
  (f s).map fun s => ((), s)

/-- The attempts that the storage lists as pending. -/
def pendingAttempts (w : World) (department : String) : List Attempt :=
  if w.leaky then w.store.attempts.filter (w.store.belongsTo department)
  else w.store.pending department

/-- Moves the clock as a reply says; none if the clock cannot go there. -/
def moveClock (w : World) (reply : Reply) : Option World :=
  (w.clock.addMillis? reply.clock).map fun clock => { w with clock }

/-- Completes a call after its wait; none if the task breaks down. -/
def answerCall {α : Type} (w : World) (limit : Duration) (reply : Option Reply)
    (answer : World → Reply → α) : World × Option (Except PlannerError α) :=
  match reply with
  | none => (w, some (.error (.timeout limit)))
  | some reply =>
    match w.moveClock reply with
    | none => (w, none)
    | some w =>
      if reply.crashes then (w, none)
      else
        match reply.failure with
        | some e => (w, some (.error e))
        | none => (w, some (.ok (answer w reply)))

/-- Starts a wait until a time; one that is due already ends at once. -/
def wait (w : World) {r : Request} (due : Nat) (wait : Wait r) : World × Reaction r :=
  if w.time < due then (w, .waiting due wait)
  else
    match wait.complete w with
    | (w, some answer) => (w, .answered answer)
    | (w, none) => (w, .crashed)

/-- Begins a call to the Planner, which replies within the limit or not at all. -/
def beginCall (w : World) (kind : CallKind) (r : Request) (limit : Duration)
    (complete : Option Reply → World → World × Option r.Answer) : World × Reaction r :=
  let w := w.record r none
  let (reply, script) := w.script.next kind
  let w := { w with script }
  let w := if reply.cancels then w.cancel w.token else w
  let (delay, answer) := bounded limit reply.delay (.ok reply)
  w.wait (w.time + delay) ⟨complete answer.toOption, none⟩

/-- Begins a request. -/
def begin (w : World) : (r : Request) → World × Reaction r
  | .getEvent id => answered (w.storage .getEvent (.getEvent id) (reading (·.event? id)))
  | .saveEvent event =>
    answered (w.storage .saveEvent (.saveEvent event) (writing fun s => .ok (s.saveEvent event)))
  | .pendingAttempts department =>
    answered (w.storage .pendingAttempts (.pendingAttempts department)
      (reading fun _ => w.pendingAttempts department))
  | .attemptsOf event =>
    answered (w.storage .attemptsOf (.attemptsOf event) (reading (·.history event)))
  | .insertAttempt a =>
    answered (w.storage .insertAttempt (.insertAttempt a)
      (writing fun s => .ok (s.insertAttempt a)))
  | .completeAttempt id c =>
    answered (w.storage .completeAttempt (.completeAttempt id c)
      (writing fun s => s.completeAttempt id c))
  | .insertCall c =>
    answered (w.storage .insertCall (.insertCall c) (writing fun s => .ok (s.insertCall c)))
  | .updateCall c =>
    answered (w.storage .updateCall (.updateCall c) (writing fun s => s.updateCall c))
  | .resourcesOf department =>
    answered (w.storage .resourcesOf (.resourcesOf department)
      (reading (·.resourcesOf department)))
  | .insertResources added =>
    answered (w.storage .insertResources (.insertResources added)
      (writing fun s => .ok (s.insertResources added)))
  | .deleteResources ids deletedAt =>
    answered (w.storage .deleteResources (.deleteResources ids deletedAt)
      (writing fun s => .ok (s.deleteResources ids deletedAt)))
  | .send operation attempts correlation limit =>
    w.beginCall (.events operation) (.send operation attempts correlation limit) limit
      fun reply w => w.answerCall limit reply fun w reply => w.script.results reply attempts
  | .listResources department limit =>
    w.beginCall .resources (.listResources department limit) limit
      fun reply w => w.answerCall limit reply fun w reply => w.script.listFor reply department
  | .now => (w, .answered w.clock)
  | .freshId => ({ w with issued := w.issued + 1 }, .answered (issuedId w.issued))
  | .isCancelled token => (w, .answered (w.isCancelled token))
  | .pause token policy retry =>
    match policy.delay? retry with
    | none => (w, .crashed)
    | some delay =>
      if w.isCancelled token then (w, .answered true)
      else w.wait (w.time + delay.waitMillis) ⟨fun w => (w, some false), some (token, true)⟩
where
  /-- A request that is answered at once. -/
  answered {r : Request} (result : World × r.Answer) : World × Reaction r :=
    (result.1, .answered result.2)

end World
end CalendarSync.Simulation
