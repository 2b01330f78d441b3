import CalendarSync.Proofs.Footprint
import CalendarSync.Proofs.Reconciling
import CalendarSync.Proofs.Tries
import CalendarSync.Worker

/-!
# No call after a shutdown

Between a look for a shutdown that finds none and the call that follows it no time passes. Every call
of a tick comes right after such a look, at a token that stems from the worker's. So none begins once
the worker's token has been cancelled, wherever in the tick that happens.
-/

namespace CalendarSync
set_option autoImplicit false
open Program Simulation

/-! ## What comes right before -/

/-- Every moment of a kind comes right after moments that lead to it. -/
def Led (kind : Moment → Prop) (leads : List Moment → Prop) (t : List Moment) : Prop :=
  ∀ before m rest, t = before ++ m :: rest → kind m →
    ∃ early recent, before = early ++ recent ∧ leads recent

namespace Led
variable {kind : Moment → Prop} {leads : List Moment → Prop} {t t' : List Moment}

theorem of_none (none : ∀ m ∈ t, ¬ kind m) : Led kind leads t := by
  rintro before m rest rfl here
  exact absurd here (none m (by simp))

theorem append (first : Led kind leads t) (second : Led kind leads t') :
    Led kind leads (t ++ t') := by
  intro before m rest split here
  obtain ⟨more, rfl, later⟩ | ⟨more, start, split⟩ := List.append_eq_append_iff.1 split
  · obtain ⟨early, recent, rfl, lead⟩ := second more m rest later here
    exact ⟨t ++ early, recent, (List.append_assoc _ _ _).symm, lead⟩
  · cases more with
    | nil =>
      obtain ⟨early, recent, none, lead⟩ := second [] m rest split.symm here
      obtain ⟨rfl, rfl⟩ := List.append_eq_nil_iff.1 none.symm
      exact ⟨before, [], (List.append_nil _).symm, lead⟩
    | cons x more =>
      obtain ⟨rfl, -⟩ := List.cons.inj split
      exact first before m more start here

end Led

/-! ## Looking before each call -/

/-- Every call comes right after a look at a token, the given one or one that stems from it, which
finds no shutdown. -/
def Guarded (token : Token) : List Moment → Prop :=
  Led (·.request.isCall = true) fun recent =>
    ∃ s own, own.stemsFrom token = true ∧ recent = [⟨s, .isCancelled own, false⟩]

namespace Guarded
variable {token own : Token} {t t' : List Moment}

theorem of_uncalled (uncalled : ∀ m ∈ t, m.request.isCall = false) : Guarded token t :=
  Led.of_none fun m mem => by simp [uncalled m mem]

theorem append (first : Guarded token t) (second : Guarded token t') : Guarded token (t ++ t') :=
  Led.append first second

/-- A look that finds no shutdown, and one more request. -/
theorem pair (stems : own.stemsFrom token = true) (s : Store) (m : Moment) :
    Guarded token [⟨s, .isCancelled own, false⟩, m] := by
  intro before m' rest split isCall
  cases before with
  | nil =>
    obtain ⟨rfl, -⟩ := List.cons.inj split
    cases isCall
  | cons x before =>
    obtain ⟨rfl, split⟩ := List.cons.inj split
    cases before with
    | nil => exact ⟨[], _, rfl, s, own, stems, rfl⟩
    | cons y before =>
      obtain ⟨-, none⟩ := List.cons.inj split
      simp at none

end Guarded

theorem Tries.guarded {ε α : Type} {made : Store → Except ε α → Moment} {token own : Token}
    {s : Store} {t : List Moment} {final : Option (Except ε α)} (tries : Tries made own s t final)
    (stems : own.stemsFrom token = true) : Guarded token t := by
  have other (request : Request) (answer : request.Answer) (local' : request.isCall = false) :
      Guarded token [⟨s, request, answer⟩] :=
    .of_uncalled (List.forall_mem_singleton.2 local')
  induction tries with
  | stopped => exact other _ _ rfl
  | last answer => exact .pair stems s _
  | cut e policy retry =>
    exact (Guarded.pair stems s _).append (other (.pause own policy retry) true rfl)
  | again e policy retry rest ih =>
    exact (Guarded.pair stems s _).append ((other (.pause own policy retry) false rfl).append ih)

/-- In every run of the program calls are guarded by looks at the token. -/
def Program.Looks (token : Token) {α : Type} (p : Program α) : Prop :=
  ∀ s t value after, Runs p s t value after → Guarded token t

namespace Program.Looks
variable {α β : Type} {token : Token}

theorem bind {p : Program α} {f : α → Program β} (first : Looks token p)
    (rest : ∀ value, Looks token (f value)) : Looks token (p >>= f) := by
  intro s t value after run
  obtain ⟨found, middle, t₁, t₂, rfl, run₁, run₂⟩ := runs_bind_iff.1 run
  exact (first _ _ _ _ run₁).append (rest found _ _ _ _ run₂)

theorem lift {p : Program α} (looks : Looks token p) :
    Looks token (ExceptT.lift p : Service α) := by
  intro s t value after run
  obtain ⟨found, -, run⟩ := Service.runs_lift_iff.1 run
  exact looks _ _ _ _ run

theorem service_bind {p : Service α} {f : α → Service β} (first : Looks token p)
    (rest : ∀ value, Looks token (f value)) : Looks token (p >>= f : Service β) := by
  intro s t value after run
  obtain ⟨e, -, run⟩ | ⟨found, middle, t₁, t₂, rfl, run₁, run₂⟩ := Service.runs_bind_iff.1 run
  · exact first _ _ _ _ run
  · exact (first _ _ _ _ run₁).append (rest found _ _ _ _ run₂)

/-- A program that makes no call. -/
theorem of_only {tables : List Table} {p : Program α} (only : Only (Request.isLocal tables) p) :
    Looks token p :=
  fun _ _ _ _ run => .of_uncalled (only.uncalled run)

theorem pure (value : α) : Looks token (Pure.pure value) :=
  of_only (show Only (Request.isLocal []) _ from .done value)

theorem request {r : Request} (other : r.isCall = false) : Looks token (Program.request r) := by
  intro s t value after run
  obtain ⟨-, rfl⟩ := runs_request_iff.1 run
  exact .of_uncalled (List.forall_mem_singleton.2 other)

theorem perform {made : Store → Except PlannerError α → Moment}
    {call : Program (Except PlannerError α)} {policy : CallPolicy} (makes : Makes made call)
    (stems : policy.token.stemsFrom token = true) (label : String) :
    Looks token (policy.perform label call) := by
  intro s t value after run
  obtain ⟨-, final, -, ⟨-, rfl, -⟩ | tries⟩ := makes.perform run
  · exact .of_uncalled (by simp)
  · exact tries.guarded stems

end Program.Looks

/-! ## The programs of a tick -/

namespace Cycle
variable {token : Token} {policy : CallPolicy}

theorem looks_sendGroup {op : Operation} {group : List Attempt}
    (stems : policy.token.stemsFrom token = true) : Looks token (sendGroup policy op group) := by
  unfold sendGroup
  refine Looks.bind (.request rfl) fun correlation => Looks.bind (.request rfl) fun startedAt =>
    Looks.bind (.request rfl) fun id => Looks.bind (.request rfl) fun opened => ?_
  cases opened with
  | error e => exact .pure _
  | ok u =>
    refine Looks.bind (.perform (makes_send _ _ _ _) stems _) fun answer =>
      Looks.bind (.request rfl) fun endedAt => ?_
    cases answer with
    | ok results => exact Looks.bind (.request rfl) fun closed => .pure _
    | error e => exact Looks.bind (.request rfl) fun closed => .pure _

theorem looks_sendGroups {queue : List Attempt} {b : Batch}
    (stems : policy.token.stemsFrom token = true) (groups : List (Operation × List Attempt))
    (progress : Progress) : Looks token (sendGroups policy queue b groups progress) := by
  induction groups generalizing progress with
  | nil => exact .pure _
  | cons head groups ih =>
    obtain ⟨op, group⟩ := head
    unfold sendGroups
    refine (looks_sendGroup stems).lift.service_bind fun answer => ?_
    cases answer with
    | error e =>
      simp only
      split
      · exact .pure _
      · exact ih _
    | ok answer =>
      have records (progress : Progress) : Looks token (record answer.1 group answer.2 progress) :=
        Looks.bind (.request rfl) fun syncedAt => .of_only only_recordAll
      have closes (progress : Progress) : Looks token (closeSuperseded queue b progress) :=
        .of_only only_closeAll
      refine (records _).lift.service_bind fun progress => ?_
      split
      · exact (closes _).lift.service_bind fun progress => ih _
      · exact ih _

theorem looks_run {maxCreates : Nat} {department : String}
    (stems : policy.token.stemsFrom token = true) :
    Looks token (Cycle.run policy maxCreates department) := by
  unfold Cycle.run
  have reads : Looks token (Program.request (.pendingAttempts department)) := .request rfl
  exact reads.service_bind fun queue => looks_sendGroups stems _ _

end Cycle

namespace Reconciliation
variable {department : String}

theorem only_newRecords {tables : List Table} {createdAt : Timestamp} (l : List ListedResource) :
    Only (Request.isLocal tables) (newRecords department createdAt l) := by
  induction l with
  | nil => exact .done _
  | cons listed l ih =>
    unfold newRecords
    have names : Only (Request.isLocal tables) (Program.request .freshId) := .request rfl
    exact names.lift.service_bind fun id => ih.service_bind fun rest => .done _

theorem only_applying {plan : Plan} {rows : List Resource} {instant : Timestamp}
    {report : ReconciliationReport} :
    Only (Request.isLocal [.resources]) (applying plan rows instant report) := by
  have inserts : Only (Request.isLocal [.resources]) (Program.request (.insertResources rows)) :=
    .request rfl
  have deletes : Only (Request.isLocal [.resources])
      (Program.request (.deleteResources plan.toDelete instant)) := .request rfl
  unfold applying
  refine inserts.service_ite _ ?_
  exact deletes.service_ite _ (.done _)

/-- What follows the Planner's list. -/
def reconciling (department : String) (listed : List ListedResource) :
    Service ReconciliationReport := do
  let records ← Service.storage (.request (.resourcesOf department))
  let instant ← Service.now
  let plan := Plan.build listed records department
  let rows ← newRecords department instant plan.toAdd
  applying plan rows instant ⟨department, rows.length, plan.toDelete.length, plan.ambiguous⟩

theorem run_eq (policy : CallPolicy) (department : String) :
    Reconciliation.run policy department =
      (Service.storage (policy.perform "get_resources"
        (.request (.listResources department policy.limit))) >>= reconciling department) := rfl

/-- Once the Planner has given its list, the table of resources is all that changes. -/
theorem only_reconciling {listed : List ListedResource} :
    Only (Request.isLocal [.resources]) (reconciling department listed) := by
  have reads : Only (Request.isLocal [.resources]) (Program.request (.resourcesOf department)) :=
    .request rfl
  have clock : Only (Request.isLocal [.resources]) (Program.request .now) := .request rfl
  exact reads.service_bind fun records => clock.lift.service_bind fun instant =>
    (only_newRecords _).service_bind fun rows => only_applying

theorem looks_run {token : Token} {policy : CallPolicy}
    (stems : policy.token.stemsFrom token = true) :
    Looks token (Reconciliation.run policy department) := by
  rw [run_eq]
  exact Looks.service_bind (.perform (makes_listResources _ _) stems _) fun listed =>
    .of_only only_reconciling

end Reconciliation

namespace Services

/-- What holds of programs that are put together holds of a tick if it holds of its parts. -/
theorem tick_of {P : {α : Type} → Program α → Prop} (services : Services) (token : Token)
    (pure : ∀ {α : Type} (value : α), P (Pure.pure value : Program α))
    (bind : ∀ {α β : Type} {p : Program α} {f : α → Program β}, P p → (∀ value, P (f value)) →
      P (p >>= f))
    (look : P (Program.request (.isCancelled token)))
    (cycle : ∀ department, P (α := Except DomainError CycleReport) (services.cycle department))
    (reconcile : ∀ department,
      P (α := Except DomainError ReconciliationReport) (services.reconcile department))
    (wanted : Bool) (departments : List String) : P (services.tick token wanted departments) := by
  have step {α : Type} {department : String} {service : Service α}
      {note : α → TickSummary → TickSummary} {summary : TickSummary}
      (holds : P (α := Except DomainError α) service) :
      P (Services.step department service note summary) := by
    refine bind (p := service) holds fun answer => ?_
    cases answer <;> exact pure _
  suffices ∀ summary, P (services.walk token wanted departments summary) from this .empty
  induction departments with
  | nil => exact fun summary => pure _
  | cons department rest ih =>
    intro summary
    unfold walk
    refine bind look fun cancelled => ?_
    split
    · exact pure _
    · refine bind ?_ fun reconciled => ?_
      · unfold reconcileStep
        split
        · exact step (reconcile department)
        · exact pure _
      · cases reconciled with
        | none => exact pure _
        | some reconciled =>
          refine bind (step (cycle department)) fun cycled => ?_
          cases cycled with
          | none => exact pure _
          | some cycled => exact ih cycled

theorem looks_tick {services : Services} {token : Token}
    (sending : services.sending.token.stemsFrom token = true)
    (listing : services.listing.token.stemsFrom token = true) (wanted : Bool)
    (departments : List String) : Looks token (services.tick token wanted departments) :=
  services.tick_of token (P := Looks token) .pure .bind (.request rfl)
    (fun _ => Cycle.looks_run sending) (fun _ => Reconciliation.looks_run listing) wanted departments

end Services

/-! ## Time -/

/-- The token at which a look for a shutdown is taken, and what it finds. -/
def Moment.look? : Moment → Option (Token × Bool)
  | ⟨_, .isCancelled token, cancelled⟩ => some (token, cancelled)
  | _ => none

/-- A moment with the times at which it begins and ends. -/
structure Span where
  moment : Moment
  begins : Nat
  ends : Nat

namespace Span
variable {token : Token} {shutdown now : Nat} {spans : List Span} {span : Span}

/-- A look at a token that is cancelled at a time, or at one that stems from it, takes no time and
finds what has come. What a wait answers is left open. -/
def Sees (token : Token) (shutdown : Nat) (span : Span) : Prop :=
  ∀ look ∈ span.moment.look?, look.1.stemsFrom token = true →
    span.ends = span.begins ∧ (shutdown ≤ span.begins → look.2 = true)

instance : Decidable (span.Sees token shutdown) :=
  inferInstanceAs (Decidable (∀ _ ∈ span.moment.look?, _ → _))

/-- Moments one after the other from a time on: each begins when the one before it ends, and takes
any time. The token is cancelled at the time `shutdown`. -/
def Timeline (token : Token) (shutdown : Nat) : Nat → List Span → Prop
  | _, [] => True
  | now, span :: spans =>
    span.begins = now ∧ now ≤ span.ends ∧ span.Sees token shutdown ∧
      Timeline token shutdown span.ends spans

instance decidableTimeline (token : Token) (shutdown : Nat) :
    (now : Nat) → (spans : List Span) → Decidable (Timeline token shutdown now spans)
  | _, [] => isTrue trivial
  | _, span :: spans =>
    have := decidableTimeline token shutdown span.ends spans
    inferInstanceAs (Decidable (_ ∧ _ ∧ _ ∧ _))

/-- The time after some moments. -/
def timeAfter (now : Nat) (spans : List Span) : Nat :=
  (spans.getLast?.map (·.ends)).getD now

theorem timeAfter_cons : timeAfter now (span :: spans) = timeAfter span.ends spans := by
  unfold timeAfter
  rw [List.getLast?_cons]
  cases spans.getLast? <;> rfl

theorem timeline_append {more : List Span} :
    Timeline token shutdown now (spans ++ more) ↔
      Timeline token shutdown now spans ∧
        Timeline token shutdown (timeAfter now spans) more := by
  induction spans generalizing now with
  | nil => simp [Timeline, timeAfter]
  | cons span spans ih => rw [List.cons_append, Timeline, Timeline, ih, timeAfter_cons]; tauto

/-- Nothing begins before the time from which the moments are told. -/
theorem Timeline.le_begins (timeline : Timeline token shutdown now spans) (mem : span ∈ spans) :
    now ≤ span.begins := by
  induction spans generalizing now with
  | nil => cases mem
  | cons first spans ih =>
    obtain ⟨rfl, longer, -, rest⟩ := timeline
    rcases List.mem_cons.1 mem with rfl | mem
    · exact Nat.le_refl _
    · exact longer.trans (ih rest mem)

/-- A guarded call begins before the shutdown. -/
theorem Timeline.begins_lt (timeline : Timeline token shutdown now spans)
    (guarded : Guarded token (spans.map (·.moment))) (mem : span ∈ spans)
    (isCall : span.moment.request.isCall = true) : span.begins < shutdown := by
  obtain ⟨before, rest, rfl⟩ := List.append_of_mem mem
  rw [List.map_append, List.map_cons] at guarded
  obtain ⟨early, _, split, s, own, stems, rfl⟩ := guarded _ _ _ rfl isCall
  obtain ⟨early', recent, rfl, rfl, last⟩ := List.map_eq_append_iff.1 split
  obtain ⟨look, rfl, same⟩ := List.map_eq_singleton_iff.1 last
  obtain ⟨timeline, begins, -⟩ := timeline_append.1 timeline
  obtain ⟨-, -, -, sees, -⟩ := timeline_append.1 timeline
  obtain ⟨prompt, none⟩ := sees (own, false) (by rw [same]; rfl) stems
  have here : span.begins = look.ends := by
    rw [begins, timeAfter, List.getLast?_append]
    rfl
  rw [here, prompt]
  simpa using none

end Span
end CalendarSync
