import CalendarSync.Cycle
import CalendarSync.Proofs.Run
import CalendarSync.Queue
import CalendarSync.Reconciliation

/-!
# Footprints

Which tables a program may write to, and whether it calls the Planner. A run leaves every other table
as it was, whatever is answered.
-/

namespace CalendarSync
set_option autoImplicit false
open Program Simulation

/-- The tables of a store. -/
inductive Table where
  | events
  | attempts
  | calls
  | resources
deriving DecidableEq

namespace Request

/-- The table that a request writes to. -/
def table? : Request → Option Table
  | saveEvent _ => some .events
  | insertAttempt _ | completeAttempt _ _ => some .attempts
  | insertCall _ | updateCall _ => some .calls
  | insertResources _ | deleteResources _ _ => some .resources
  | _ => none

/-- The request writes to none but these tables. -/
def within (tables : List Table) (r : Request) : Bool :=
  r.table?.all tables.contains

/-- The request is a call to the Planner. -/
def isCall : Request → Bool
  | send _ _ _ _ | listResources _ _ => true
  | _ => false

/-- The request stays with the storage, the clock and the source of identifiers. -/
def isInternal : Request → Bool
  | send _ _ _ _ | listResources _ _ | isCancelled _ | pause _ _ _ => false
  | _ => true

/-- The request stays with the storage, the clock and the source of identifiers, and writes to none
but these tables. -/
def isLocal (tables : List Table) (r : Request) : Bool :=
  r.isInternal && r.within tables

theorem within_of_isLocal {tables : List Table} {r : Request} (here : r.isLocal tables = true) :
    r.within tables = true :=
  (Bool.and_eq_true_iff.1 here).2

theorem isInternal_of_isLocal {tables : List Table} {r : Request}
    (here : r.isLocal tables = true) : r.isInternal = true :=
  (Bool.and_eq_true_iff.1 here).1

theorem isCall_of_isInternal {r : Request} (here : r.isInternal = true) : r.isCall = false := by
  cases r with
  | send op group correlation limit => cases here
  | listResources department limit => cases here
  | _ => rfl

end Request

namespace Simulation.Store
variable {s middle after : Store} {table : Table}

/-- Both hold the same rows in a table. -/
def Agree (s after : Store) : Table → Prop
  | .events => after.events = s.events
  | .attempts => after.attempts = s.attempts
  | .calls => after.calls = s.calls
  | .resources => after.resources = s.resources

theorem Agree.refl (s : Store) (table : Table) : s.Agree s table := by
  cases table <;> rfl

theorem Agree.trans (first : s.Agree middle table) (second : middle.Agree after table) :
    s.Agree after table := by
  cases table with
  | events => exact Eq.trans (b := middle.events) second first
  | attempts => exact Eq.trans (b := middle.attempts) second first
  | calls => exact Eq.trans (b := middle.calls) second first
  | resources => exact Eq.trans (b := middle.resources) second first

/-- A write that fails changes nothing, and one that succeeds changes what it is meant to. -/
theorem Writes.agree {result : Except DomainError Store} {answer : Except DomainError Unit}
    (wrote : s.Writes result answer after)
    (kept : ∀ next, result = .ok next → s.Agree next table) : s.Agree after table := by
  cases answer with
  | ok u => exact kept after wrote
  | error e =>
    obtain rfl : after = s := wrote
    exact .refl _ _

/-- A request leaves all tables alone but the one that it writes to. -/
theorem Answers.agree {r : Request} {answer : r.Answer} (table : Table)
    (answered : s.Answers r answer after) (other : r.table? ≠ some table) : s.Agree after table := by
  have idle (same : after = s) : s.Agree after table := same ▸ .refl s table
  cases r with
  | saveEvent event =>
    refine Writes.agree answered ?_
    rintro _ ⟨⟩
    unfold Store.saveEvent
    cases table with
    | events => exact absurd rfl other
    | _ => split <;> rfl
  | insertAttempt a =>
    refine Writes.agree answered ?_
    rintro _ ⟨⟩
    cases table with
    | attempts => exact absurd rfl other
    | _ => rfl
  | completeAttempt id c =>
    refine Writes.agree answered fun next wrote => ?_
    unfold Store.completeAttempt at wrote
    split at wrote
    · cases wrote
      cases table with
      | attempts => exact absurd rfl other
      | _ => rfl
    · cases wrote
  | insertCall c =>
    refine Writes.agree answered ?_
    rintro _ ⟨⟩
    cases table with
    | calls => exact absurd rfl other
    | _ => rfl
  | updateCall c =>
    refine Writes.agree answered fun next wrote => ?_
    unfold Store.updateCall at wrote
    split at wrote
    · cases wrote
      cases table with
      | calls => exact absurd rfl other
      | _ => rfl
    · cases wrote
  | insertResources rows =>
    refine Writes.agree answered ?_
    rintro _ ⟨⟩
    cases table with
    | resources => exact absurd rfl other
    | _ => rfl
  | deleteResources ids instant =>
    refine Writes.agree answered ?_
    rintro _ ⟨⟩
    cases table with
    | resources => exact absurd rfl other
    | _ => rfl
  | getEvent id => exact idle answered.1
  | pendingAttempts department => exact idle answered.1
  | attemptsOf event => exact idle answered.1
  | resourcesOf department => exact idle answered.1
  | send op group correlation limit => exact idle answered
  | listResources department limit => exact idle answered
  | now => exact idle answered
  | freshId => exact idle answered
  | isCancelled token => exact idle answered
  | pause policy retry => exact idle answered

end Simulation.Store

/-- The program makes requests of a kind only. -/
inductive Program.Only (p : Request → Bool) {α : Type} : Program α → Prop where
  | done (value : α) : Only p (.done value)
  | ask {r : Request} {next : r.Answer → Program α} (here : p r = true)
      (rest : ∀ answer, Only p (next answer)) : Only p (.ask r next)

namespace Program.Only
variable {α β : Type} {p q : Request → Bool} {s after : Store} {t : List Moment} {value : α}

theorem mono {x : Program α} (only : Only p x) (more : ∀ r, p r = true → q r = true) :
    Only q x := by
  induction only with
  | done value => exact .done value
  | ask here _ ih => exact .ask (more _ here) ih

theorem bind {x : Program α} {f : α → Program β} (first : Only p x)
    (rest : ∀ value, Only p (f value)) : Only p (x >>= f) := by
  induction first with
  | done value => exact rest value
  | ask here _ ih => exact .ask here ih

theorem request {r : Request} (here : p r = true) : Only p (Program.request r) :=
  .ask here fun answer => .done answer

theorem foldlM {σ : Type} {f : σ → α → Program σ} (each : ∀ value a, Only p (f value a))
    (l : List α) (value : σ) : Only p (l.foldlM f value) := by
  induction l generalizing value with
  | nil => exact .done value
  | cons a l ih =>
    rw [List.foldlM_cons]
    exact (each value a).bind ih

theorem lift {x : Program α} (only : Only p x) : Only p (ExceptT.lift x : Service α) := by
  change Only p (Except.ok <$> x)
  rw [map_eq_pure_bind]
  exact only.bind fun value => .done _

theorem service_bind {x : Service α} {f : α → Service β} (first : Only p x)
    (rest : ∀ value, Only p (f value)) : Only p (x >>= f : Service β) := by
  apply Only.bind (x := x) first
  intro value
  cases value with
  | ok value => exact rest value
  | error e => exact .done _

/-- A write that may be left out. -/
theorem service_ite {x : Service Unit} {f : Unit → Service β} (c : Bool) (first : Only p x)
    (rest : Only p (f ())) : Only p (if c = true then (x >>= f : Service β) else f ()) := by
  cases c with
  | true => exact first.service_bind fun _ => rest
  | false => exact rest

/-- Every request of a run is of the kind. -/
theorem moments {x : Program α} (only : Only p x) (run : Runs x s t value after) :
    ∀ m ∈ t, p m.request = true := by
  induction run with
  | done value s => simp
  | ask answered rest ih =>
    cases only with
    | ask here only => exact List.forall_mem_cons.2 ⟨here, ih (only _)⟩

/-- A run leaves the tables alone that no request of it writes to. -/
theorem agree {tables : List Table} {x : Program α} (table : Table)
    (only : Only (Request.within tables) x) (run : Runs x s t value after)
    (out : table ∉ tables) : s.Agree after table := by
  induction run with
  | done value s => exact .refl s table
  | @ask r next s middle after answer t value answered rest ih =>
    cases only with
    | ask here only =>
      refine Store.Agree.trans (Store.Answers.agree table answered ?_) (ih (only _))
      intro same
      rw [Request.within, same] at here
      exact out (by simpa using here)

/-- A run that stays with the storage, the clock and the source of identifiers. -/
theorem internal {tables : List Table} {x : Program α} (only : Only (Request.isLocal tables) x)
    (run : Runs x s t value after) : ∀ m ∈ t, m.request.isInternal = true :=
  fun m mem => Request.isInternal_of_isLocal (only.moments run m mem)

/-- It makes no call. -/
theorem uncalled {tables : List Table} {x : Program α} (only : Only (Request.isLocal tables) x)
    (run : Runs x s t value after) : ∀ m ∈ t, m.request.isCall = false :=
  fun m mem => Request.isCall_of_isInternal (only.internal run m mem)

theorem within {tables : List Table} {x : Program α} (only : Only (Request.isLocal tables) x) :
    Only (Request.within tables) x :=
  only.mono fun _ => Request.within_of_isLocal

end Program.Only

/-! ## The programs of the services -/

section Programs
variable {p : Request → Bool}

theorem only_attempt {token : Token} {b : Backoff} {ε α : Type} {isBusy : ε → Bool}
    {call : Program (Except ε α)}
    (looks : p (.isCancelled token) = true) (waits : ∀ retry, p (.pause token b retry) = true)
    (only : Only p call) (made more : Nat) :
    Only p (Retry.attempt (.ofBackoff token b) isBusy call made more) := by
  have asks : Only p (Program.request (.isCancelled token)) := .request looks
  induction more generalizing made with
  | zero =>
    rw [Retry.attempt]
    refine asks.bind fun cancelled => ?_
    split
    · exact .done _
    · refine only.bind fun answer => ?_
      cases answer <;> exact .done _
  | succ more ih =>
    rw [Retry.attempt]
    refine asks.bind fun cancelled => ?_
    split
    · exact .done _
    · refine only.bind fun answer => ?_
      cases answer with
      | ok value => exact .done _
      | error e =>
        simp only
        split
        · have pauses : Only p (Program.request (.pause token b made)) := .request (waits made)
          refine pauses.bind fun cut => ?_
          split
          · exact .done _
          · exact ih (made + 1)
        · exact .done _

theorem only_perform {α : Type} {policy : CallPolicy} {label : String}
    {call : Program (Except PlannerError α)} (looks : p (.isCancelled policy.token) = true)
    (waits : ∀ b retry, p (.pause policy.token b retry) = true) (only : Only p call) :
    Only p (policy.perform label call) := by
  unfold CallPolicy.perform
  refine Only.bind ?_ fun answer => ?_
  · unfold Retry.run
    split
    · exact .done _
    · exact only_attempt looks (waits _) only _ _
  · cases answer <;> exact .done _

namespace Cycle

theorem only_sendGroup {policy : CallPolicy} {op : Operation} {group : List Attempt} :
    Only (Request.within [.calls]) (sendGroup policy op group) := by
  unfold sendGroup
  refine Only.bind (.request rfl) fun correlation => Only.bind (.request rfl) fun startedAt =>
    Only.bind (.request rfl) fun id => Only.bind (.request rfl) fun opened => ?_
  cases opened with
  | error e => exact .done _
  | ok u =>
    refine (only_perform rfl (fun _ _ => rfl) (.request rfl)).bind fun answer =>
      Only.bind (.request rfl) fun endedAt => ?_
    cases answer with
    | ok results => exact Only.bind (.request rfl) fun closed => .done _
    | error e => exact Only.bind (.request rfl) fun closed => .done _

theorem only_count {a : Attempt} {report : CycleReport} :
    Only (Request.isLocal [.attempts]) (count a report) := by
  unfold count
  cases a.outcome with
  | error e => exact .done _
  | ok outcome =>
    cases outcome with
    | transient code =>
      refine Only.bind (.request rfl) fun createdAt => Only.bind (.request rfl) fun id =>
        Only.bind (.request rfl) fun answer => ?_
      cases answer <;> exact .done _
    | _ => exact .done _

theorem only_recordOne {call : Uuid} {results : List ItemResult} {syncedAt : Timestamp}
    (progress : Progress) (a : Attempt) :
    Only (Request.isLocal [.attempts]) (recordOne call results syncedAt progress a) := by
  unfold recordOne
  split
  · exact .done _
  · refine Only.bind (.request rfl) fun answer => ?_
    cases answer with
    | error e => exact .done _
    | ok u => exact only_count.bind fun report => .done _

theorem only_recordAll {call : Uuid} {results : List ItemResult} {syncedAt : Timestamp}
    {group : List Attempt} {progress : Progress} :
    Only (Request.isLocal [.attempts]) (group.foldlM (recordOne call results syncedAt) progress) :=
  .foldlM only_recordOne group progress

theorem only_closeOne {b : Batch} (progress : Progress) (a : Attempt) :
    Only (Request.isLocal [.attempts]) (closeOne b progress a) := by
  unfold closeOne
  split
  · exact .done _
  · refine Only.bind (.request rfl) fun answer => ?_
    cases answer <;> exact .done _

theorem only_closeAll {b : Batch} {l : List Attempt} {progress : Progress} :
    Only (Request.isLocal [.attempts]) (l.foldlM (closeOne b) progress) :=
  .foldlM only_closeOne l progress

end Cycle

namespace Queue

theorem only_load {tables : List Table} {id : Uuid} : Only (Request.isLocal tables) (load id) := by
  unfold load
  have reads : Only (Request.isLocal tables) (Program.request (.getEvent id)) := .request rfl
  refine reads.service_bind fun found => ?_
  cases found with
  | none => exact .done _
  | some event =>
    have lists : Only (Request.isLocal tables) (Program.request (.attemptsOf id)) := .request rfl
    exact lists.service_bind fun attempts => .done _

theorem only_add {tables : List Table} {make : Timestamp → Uuid → Attempt}
    (inserts : ∀ a, Request.isLocal tables (.insertAttempt a) = true) :
    Only (Request.isLocal tables) (do
      let createdAt ← Service.now
      let fresh ← Service.freshId
      Service.storage (.request (.insertAttempt (make createdAt fresh)))
      return some (make createdAt fresh) : Service (Option Attempt)) := by
  have clock : Only (Request.isLocal tables) (Program.request .now) := .request rfl
  have names : Only (Request.isLocal tables) (Program.request .freshId) := .request rfl
  refine clock.lift.service_bind fun createdAt => names.lift.service_bind fun fresh => ?_
  have adds : Only (Request.isLocal tables)
      (Program.request (.insertAttempt (make createdAt fresh))) := .request (inserts _)
  exact adds.service_bind fun _ => .done _

theorem only_proposeIfStale {id : Uuid} {seen : Window} :
    Only (Request.isLocal [.attempts]) (proposeIfStale id seen) := by
  unfold proposeIfStale
  refine only_load.service_bind fun event => ?_
  split
  · exact .done _
  · exact only_add fun _ => rfl

theorem only_withdraw (tables : List Table) {c : Completion}
    (completes : ∀ id, Request.isLocal tables (.completeAttempt id c) = true) (l : List Attempt) :
    Only (Request.isLocal tables) (withdraw c l) := by
  induction l with
  | nil => exact .done _
  | cons a l ih =>
    unfold withdraw
    have closes : Only (Request.isLocal tables) (Program.request (.completeAttempt a.id c)) :=
      .request (completes a.id)
    exact closes.service_bind fun _ => ih

theorem only_delete {id : Uuid} : Only (Request.isLocal [.events, .attempts]) (delete id) := by
  unfold delete
  refine only_load.service_bind fun event => ?_
  split
  · exact .done _
  · have saves : Only (Request.isLocal [.events, .attempts])
        (Program.request (.saveEvent event.markDeleted)) := .request rfl
    refine saves.service_bind fun _ => ?_
    split
    · exact .done _
    · split
      · exact only_add fun _ => rfl
      · have clock : Only (Request.isLocal [.events, .attempts]) (Program.request .now) :=
          .request rfl
        refine clock.lift.service_bind fun instant => ?_
        exact (only_withdraw _ (fun _ => rfl) _).service_bind fun _ => .done _

end Queue

end Programs
end CalendarSync
