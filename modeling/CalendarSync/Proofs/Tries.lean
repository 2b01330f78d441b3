import CalendarSync.Cycle
import CalendarSync.Proofs.Run

/-!
# The tries of a call

A call to the Planner is tried again while the Planner is busy. Each try first asks for a shutdown,
and a wait comes between two tries. What the call comes to is the answer to its last try. The call of
a group stands between the opening and the closing of its record.
-/

namespace CalendarSync
set_option autoImplicit false
open Program Simulation

/-- In every run the program makes one request, which leaves the tables alone. -/
def Program.Makes {ε α : Type} (made : Store → Except ε α → Moment) (p : Program (Except ε α)) :
    Prop :=
  ∀ s t answer after, Runs p s t answer after → after = s ∧ t = [made s answer]

theorem makes_send (op : Operation) (group : List Attempt) (correlation : String)
    (limit : Duration) :
    Makes (fun s answer => ⟨s, .send op group correlation limit, answer⟩)
      (Program.request (.send op group correlation limit)) :=
  fun _ _ _ _ run => runs_request_iff.1 run

theorem makes_listResources (department : String) (limit : Duration) :
    Makes (fun s answer => ⟨s, .listResources department limit, answer⟩)
      (Program.request (.listResources department limit)) :=
  fun _ _ _ _ run => runs_request_iff.1 run

/-- The moments of a call under a shutdown token, and the answer to its last try if there was one.
Only an error is followed by another try. -/
inductive Tries {ε α : Type} (made : Store → Except ε α → Moment) (token : Token) (s : Store) :
    List Moment → Option (Except ε α) → Prop where
  | stopped : Tries made token s [⟨s, .isCancelled token, true⟩] none
  | last (answer : Except ε α) :
      Tries made token s [⟨s, .isCancelled token, false⟩, made s answer] (some answer)
  | cut (e : ε) (policy : Backoff) (retry : Nat) :
      Tries made token s [⟨s, .isCancelled token, false⟩, made s (.error e),
        ⟨s, .pause token policy retry, true⟩] (some (.error e))
  | again (e : ε) (policy : Backoff) (retry : Nat) {t : List Moment}
      {final : Option (Except ε α)} (rest : Tries made token s t final) :
      Tries made token s (⟨s, .isCancelled token, false⟩ :: made s (.error e) ::
        ⟨s, .pause token policy retry, false⟩ :: t) (final.or (some (.error e)))

section Runs
variable {ε δ α : Type} {made : Store → Except ε α → Moment} {s after : Store} {t : List Moment}
  {token : Token} {b : Backoff} {isBusy : ε → Bool} {call : Program (Except ε α)}

theorem Program.Makes.attempt (makes : Makes made call) (before more : Nat)
    {result : Except (RetryFailure ε) α}
    (run : Runs (Retry.attempt (.ofBackoff token b) isBusy call before more) s t result after) :
    after = s ∧ ∃ final, Tries made token s t final ∧
      result.toOption = final.bind Except.toOption := by
  induction more generalizing before s t with
  | zero =>
    rw [Retry.attempt] at run
    obtain ⟨cancelled, _, _, rfl, rfl, run₁⟩ := runs_request_bind_iff.1 run
    cases cancelled with
    | true =>
      obtain ⟨rfl, rfl, rfl⟩ := runs_pure_iff.1 run₁
      exact ⟨rfl, none, .stopped, rfl⟩
    | false =>
      obtain ⟨answer, _, first, rest, rfl, called, run₂⟩ := runs_bind_iff.1 run₁
      obtain ⟨rfl, rfl⟩ := makes _ _ _ _ called
      cases answer with
      | ok value =>
        obtain ⟨rfl, rfl, rfl⟩ := runs_pure_iff.1 run₂
        exact ⟨rfl, _, .last (.ok value), rfl⟩
      | error e =>
        obtain ⟨rfl, rfl, rfl⟩ := runs_pure_iff.1 run₂
        exact ⟨rfl, _, .last (.error e), rfl⟩
  | succ more ih =>
    rw [Retry.attempt] at run
    obtain ⟨cancelled, _, _, rfl, rfl, run₁⟩ := runs_request_bind_iff.1 run
    cases cancelled with
    | true =>
      obtain ⟨rfl, rfl, rfl⟩ := runs_pure_iff.1 run₁
      exact ⟨rfl, none, .stopped, rfl⟩
    | false =>
      obtain ⟨answer, _, first, rest, rfl, called, run₂⟩ := runs_bind_iff.1 run₁
      obtain ⟨rfl, rfl⟩ := makes _ _ _ _ called
      cases answer with
      | ok value =>
        obtain ⟨rfl, rfl, rfl⟩ := runs_pure_iff.1 run₂
        exact ⟨rfl, _, .last (.ok value), rfl⟩
      | error e =>
        by_cases busy : isBusy e = true
        · simp only [busy, if_true] at run₂
          obtain ⟨cut, _, _, rfl, rfl, run₃⟩ := runs_request_bind_iff.1 run₂
          cases cut with
          | true =>
            obtain ⟨rfl, rfl, rfl⟩ := runs_pure_iff.1 run₃
            exact ⟨rfl, _, .cut e b before, rfl⟩
          | false =>
            obtain ⟨same, final, tries, value⟩ := ih (before + 1) run₃
            refine ⟨same, _, .again e b before tries, ?_⟩
            rw [value]
            cases final <;> rfl
        · simp only [busy] at run₂
          obtain ⟨rfl, rfl, rfl⟩ := runs_pure_iff.1 run₂
          exact ⟨rfl, _, .last (.error e), rfl⟩

/-- A call as the policy allows it: without any attempts allowed there is no try. -/
theorem Program.Makes.perform {made : Store → Except PlannerError α → Moment}
    {call : Program (Except PlannerError α)} (makes : Makes made call) {policy : CallPolicy}
    {label : String} {answer : Except DomainError α}
    (run : Runs (policy.perform label call) s t answer after) :
    after = s ∧ ∃ final, answer.toOption = final.bind Except.toOption ∧
      (policy.backoff.maxAttempts = 0 ∧ t = [] ∧ final = none ∨ Tries made policy.token s t final) := by
  unfold CallPolicy.perform at run
  obtain ⟨tried, middle, first, rest, rfl, run₁, run₂⟩ := runs_bind_iff.1 run
  have known : middle = s ∧ ∃ final, tried.toOption = final.bind Except.toOption ∧
      (policy.backoff.maxAttempts = 0 ∧ first = [] ∧ final = none ∨
        Tries made policy.token s first final) := by
    unfold Retry.run at run₁
    split at run₁
    · rename_i none
      obtain ⟨rfl, rfl, rfl⟩ := runs_pure_iff.1 run₁
      exact ⟨rfl, .none, rfl, .inl ⟨UInt32.toNat_inj.1 none, rfl, rfl⟩⟩
    · obtain ⟨same, final, tries, value⟩ := makes.attempt _ _ run₁
      exact ⟨same, final, value, .inr tries⟩
  obtain ⟨rfl, final, value, tries⟩ := known
  cases tried with
  | ok value' =>
    obtain ⟨rfl, rfl, rfl⟩ := runs_pure_iff.1 run₂
    exact ⟨rfl, final, value, by simpa using tries⟩
  | error e =>
    obtain ⟨rfl, rfl, rfl⟩ := runs_pure_iff.1 run₂
    exact ⟨rfl, final, value, by simpa using tries⟩

end Runs

/-- No shutdown comes. -/
def Moment.Running : Moment → Prop
  | ⟨_, .isCancelled _, cancelled⟩ => cancelled = false
  | ⟨_, .pause _ _ _, cut⟩ => cut = false
  | _ => True

instance : (m : Moment) → Decidable m.Running
  | ⟨_, .isCancelled _, cancelled⟩ => inferInstanceAs (Decidable (cancelled = false))
  | ⟨_, .pause _ _ _, cut⟩ => inferInstanceAs (Decidable (cut = false))
  | ⟨_, .getEvent _, _⟩ | ⟨_, .saveEvent _, _⟩ | ⟨_, .pendingAttempts _, _⟩
  | ⟨_, .attemptsOf _, _⟩ | ⟨_, .insertAttempt _, _⟩ | ⟨_, .completeAttempt _ _, _⟩
  | ⟨_, .insertCall _, _⟩ | ⟨_, .updateCall _, _⟩ | ⟨_, .resourcesOf _, _⟩
  | ⟨_, .insertResources _, _⟩ | ⟨_, .deleteResources _ _, _⟩ | ⟨_, .send _ _ _ _, _⟩
  | ⟨_, .listResources _ _, _⟩ | ⟨_, .now, _⟩ | ⟨_, .freshId, _⟩ => isTrue trivial

namespace Tries
variable {ε α : Type} {made : Store → Except ε α → Moment} {token : Token} {s : Store}
  {t : List Moment} {final : Option (Except ε α)}

/-- A moment of a call asks for a shutdown, waits, or is one of the tries. -/
theorem mem (tries : Tries made token s t final) : ∀ m ∈ t,
    (∃ cancelled, m = ⟨s, .isCancelled token, cancelled⟩) ∨
      (∃ policy retry cut, m = ⟨s, .pause token policy retry, cut⟩) ∨
        ∃ answer, m = made s answer := by
  induction tries with
  | stopped => exact List.forall_mem_singleton.2 (.inl ⟨_, rfl⟩)
  | last answer =>
    exact List.forall_mem_cons.2 ⟨.inl ⟨_, rfl⟩,
      List.forall_mem_singleton.2 (.inr (.inr ⟨_, rfl⟩))⟩
  | cut e policy retry =>
    exact List.forall_mem_cons.2 ⟨.inl ⟨_, rfl⟩, List.forall_mem_cons.2 ⟨.inr (.inr ⟨_, rfl⟩),
      List.forall_mem_singleton.2 (.inr (.inl ⟨_, _, _, rfl⟩))⟩⟩
  | again e policy retry rest ih =>
    exact List.forall_mem_cons.2 ⟨.inl ⟨_, rfl⟩, List.forall_mem_cons.2 ⟨.inr (.inr ⟨_, rfl⟩),
      List.forall_mem_cons.2 ⟨.inr (.inl ⟨_, _, _, rfl⟩), ih⟩⟩⟩

/-- Without a shutdown and without errors there is one try. -/
theorem once (tries : Tries made token s t final) (running : ∀ m ∈ t, m.Running)
    (sound : ∀ e, made s (.error e) ∉ t) :
    ∃ value, final = some (.ok value) ∧
      t = [⟨s, .isCancelled token, false⟩, made s (.ok value)] := by
  cases tries with
  | stopped => exact absurd (running _ (List.mem_singleton_self _)) (by simp [Moment.Running])
  | last answer =>
    cases answer with
    | ok value => exact ⟨value, rfl, rfl⟩
    | error e => exact absurd (by simp) (sound e)
  | cut e policy retry => exact absurd (by simp) (sound e)
  | again e policy retry rest => exact absurd (by simp) (sound e)

end Tries

/-! ## The call of a group -/

namespace Cycle
variable {policy : CallPolicy} {op : Operation} {group : List Attempt} {s after : Store}
  {t : List Moment} {result : Except DomainError (Uuid × List ItemResult)}

/-- The tries of the call of a group. -/
abbrev Sends (policy : CallPolicy) (op : Operation) (group : List Attempt) (correlation : String)
    (s : Store) : List Moment → Option (Except PlannerError (List ItemResult)) → Prop :=
  Tries (fun s answer => ⟨s, .send op group correlation policy.limit, answer⟩) policy.token s

/-- The turn of a group with storage that does not fail: the record of the call is opened, the group
is sent as often as the policy allows, and the record is closed. -/
inductive Posting (policy : CallPolicy) (op : Operation) (group : List Attempt) (s : Store) :
    List Moment → Except DomainError (Uuid × List ItemResult) → Store → Prop where
  | posted {correlation id : Uuid} {startedAt endedAt : Timestamp} {opened after : Store}
      {calls : List Moment} {final : Option (Except PlannerError (List ItemResult))}
      {reply : Except DomainError (List ItemResult)} {response : Option String}
      (opens : opened = s.insertCall (.start id op correlation.text startedAt))
      (tries : policy.backoff.maxAttempts = 0 ∧ calls = [] ∧ final = none ∨
        Sends policy op group correlation.text opened calls final)
      (replied : reply.toOption = final.bind Except.toOption)
      (closes : opened.updateCall ((Call.start id op correlation.text startedAt).finish reply.isOk
        response endedAt) = .ok after) :
      Posting policy op group s
        ([⟨s, .freshId, correlation⟩, ⟨s, .now, startedAt⟩, ⟨s, .freshId, id⟩,
          ⟨s, .insertCall (.start id op correlation.text startedAt), .ok ()⟩] ++ (calls ++
          [⟨opened, .now, endedAt⟩, ⟨opened, .updateCall ((Call.start id op correlation.text
            startedAt).finish reply.isOk response endedAt), .ok ()⟩]))
        (reply.map (id, ·)) after

/-- Closing the record ends the turn. -/
theorem runs_close {call : Call} {α : Type} {value result : α}
    (run : Runs (Program.request (.updateCall call) >>= fun _ => pure value) s t result after)
    (stored : ∀ m ∈ t, m.Stored) :
    s.updateCall call = .ok after ∧ result = value ∧ t = [⟨s, .updateCall call, .ok ()⟩] := by
  obtain ⟨answer, _, _, wrote, rfl, last⟩ := runs_request_bind_iff.1 run
  obtain ⟨rfl, rfl, rfl⟩ := runs_pure_iff.1 last
  cases answer with
  | ok u => exact ⟨wrote, rfl, rfl⟩
  | error e => exact absurd (stored _ (List.mem_singleton_self _)) (fun h => by cases h)

theorem posting_sendGroup (run : Runs (sendGroup policy op group) s t result after)
    (stored : ∀ m ∈ t, m.Stored) : Posting policy op group s t result after := by
  unfold sendGroup at run
  obtain ⟨correlation, _, _, rfl, rfl, run₁⟩ := runs_request_bind_iff.1 run
  obtain ⟨startedAt, _, _, rfl, rfl, run₂⟩ := runs_request_bind_iff.1 run₁
  obtain ⟨id, s, _, rfl, rfl, run₃⟩ := runs_request_bind_iff.1 run₂
  obtain ⟨answer, opened, _, wrote, rfl, run₄⟩ := runs_request_bind_iff.1 run₃
  simp only [List.forall_mem_cons] at stored
  obtain ⟨-, -, -, inserted, stored⟩ := stored
  cases answer with
  | error e => cases inserted
  | ok u =>
    have opens : opened = s.insertCall (.start id op correlation.text startedAt) :=
      (Except.ok.inj wrote).symm
    obtain ⟨reply, _, calls, _, rfl, called, run₅⟩ := runs_bind_iff.1 run₄
    obtain ⟨rfl, final, replied, tries⟩ := (makes_send _ _ _ _).perform called
    obtain ⟨endedAt, last, _, rfl, rfl, run₆⟩ := runs_request_bind_iff.1 run₅
    rw [List.forall_mem_append, List.forall_mem_cons] at stored
    cases reply with
    | ok results =>
      obtain ⟨closes, rfl, rfl⟩ := runs_close run₆ stored.2.2
      exact .posted opens tries replied closes
    | error e =>
      obtain ⟨closes, rfl, rfl⟩ := runs_close run₆ stored.2.2
      exact .posted opens tries replied closes

end Cycle
end CalendarSync
