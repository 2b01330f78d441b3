import CalendarSync.Backoff
import CalendarSync.Call
import CalendarSync.Event
import CalendarSync.PlannerError
import CalendarSync.Resource
import CalendarSync.Retry
import CalendarSync.Token

/-!
# Programs

What the services do, as trees of requests to their surroundings: the storage, the Planner, the
clock, the source of identifiers and the shutdown tokens. Each request is one atomic step; whoever
runs a program decides the answers.
-/

namespace CalendarSync
set_option autoImplicit false

/-- One request of a service. -/
inductive Request where
  /-- Reads an event; its attempts may be missing. -/
  | getEvent (id : Uuid)
  /-- Adds or replaces an event; its attempts are stored on their own. -/
  | saveEvent (event : Event)
  /-- Reads the attempts of a department's events that have not been answered. -/
  | pendingAttempts (department : String)
  /-- Reads the history of an event. -/
  | attemptsOf (event : Uuid)
  | insertAttempt (attempt : Attempt)
  | completeAttempt (id : Uuid) (completion : Completion)
  | insertCall (call : Call)
  | updateCall (call : Call)
  /-- Reads the records of a department, deleted ones too. -/
  | resourcesOf (department : String)
  | insertResources (resources : List Resource)
  | deleteResources (ids : List Uuid) (deletedAt : Timestamp)
  /-- Sends a group of attempts to the Planner, which has `limit` to answer. -/
  | send (operation : Operation) (attempts : List Attempt) (correlation : String)
      (limit : Duration)
  /-- Asks the Planner for its list of resources. -/
  | listResources (department : String) (limit : Duration)
  /-- Reads the clock. -/
  | now
  /-- Asks for an identifier that is new and greater than all before it. -/
  | freshId
  /-- Asks whether a shutdown has been requested by a token. -/
  | isCancelled (token : Token)
  /-- Waits as the policy says before a retry; a shutdown by the token cuts the wait short. -/
  | pause (token : Token) (policy : Backoff) (retry : Nat)

/-- The type of the answers to a request. -/
@[reducible] def Request.Answer : Request → Type
  | getEvent _ => Except DomainError (Option Event)
  | saveEvent _ | insertAttempt _ | completeAttempt _ _ | insertCall _ | updateCall _
  | insertResources _ | deleteResources _ _ => Except DomainError Unit
  | pendingAttempts _ | attemptsOf _ => Except DomainError (List Attempt)
  | resourcesOf _ => Except DomainError (List Resource)
  | send _ _ _ _ => Except PlannerError (List ItemResult)
  | listResources _ _ => Except PlannerError (List ListedResource)
  | now => Timestamp
  | freshId => Uuid
  | isCancelled _ | pause _ _ _ => Bool

/-- A computation that makes requests. -/
inductive Program (α : Type) where
  | done (value : α)
  | ask (request : Request) (next : request.Answer → Program α)

namespace Program
variable {α β γ : Type}

/-- Continues with the result of a program. -/
def bind : Program α → (α → Program β) → Program β
  | done value, f => f value
  | ask request next, f => ask request fun answer => (next answer).bind f

/-- The program that makes one request. -/
def request (r : Request) : Program r.Answer :=
  ask r done

instance : Monad Program where
  pure := done
  bind := bind

theorem pure_bind (value : α) (f : α → Program β) : (done value).bind f = f value := rfl

theorem bind_done (p : Program α) : p.bind done = p := by
  induction p with
  | done value => rfl
  | ask r next ih => simp only [bind]; congr 1; funext answer; exact ih answer

theorem bind_assoc (p : Program α) (f : α → Program β) (g : β → Program γ) :
    (p.bind f).bind g = p.bind fun value => (f value).bind g := by
  induction p with
  | done value => rfl
  | ask r next ih => simp only [bind]; congr 1; funext answer; exact ih answer

instance : LawfulMonad Program :=
  LawfulMonad.mk' Program bind_done pure_bind bind_assoc

end Program

/-- The surroundings of a retried call: a shutdown token and the waits of a policy. -/
def Retry.Host.ofBackoff (token : Token) (policy : Backoff) : Retry.Host Program where
  isCancelled := .request (.isCancelled token)
  pause := fun retry => .request (.pause token policy retry)

/-- How calls to the Planner are made: when to repeat them, how long each one may take, and the token
that keeps further ones from being made. -/
structure CallPolicy where
  backoff : Backoff
  limit : Duration
  token : Token

/-- Makes a call to the Planner, again and again while it is busy, as the policy allows. -/
def CallPolicy.perform {α : Type} (policy : CallPolicy) (label : String)
    (call : Program (Except PlannerError α)) : Program (Except DomainError α) := do
  let b := policy.backoff
  match ← Retry.run (.ofBackoff policy.token b) PlannerError.isBusy label b.maxAttempts.toNat call with
  | .ok value => return .ok value
  | .error failure => return .error (failure.toDomain label)

/-- A program that may end with an error. -/
abbrev Service := ExceptT DomainError Program

namespace Service

/-- A request whose failure ends the service. -/
def storage {α : Type} (p : Program (Except DomainError α)) : Service α := p

/-- Reads the clock. -/
def now : Service Timestamp := ExceptT.lift (Program.request .now)

/-- Asks for a new identifier. -/
def freshId : Service Uuid := ExceptT.lift (Program.request .freshId)

end Service
end CalendarSync
