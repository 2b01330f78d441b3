import CalendarSync.Proofs.Turns

/-!
# What a call hears

Without a shutdown the replies of the Planner alone decide what a call to it comes to, and how often
it is made. So two calls of one group that hear the same, as far as both of them go, hear the same
to the end.
-/

namespace CalendarSync
set_option autoImplicit false
open Program Simulation

variable {s s' after after' : Store} {t t' : List Moment}

/-! ## Lists that concur -/

/-- Two lists are equal as far as both of them go. -/
def Concur {α : Type} (l l' : List α) : Prop :=
  ∀ p ∈ l.zip l', p.1 = p.2

instance {α : Type} [DecidableEq α] (l l' : List α) : Decidable (Concur l l') :=
  inferInstanceAs (Decidable (∀ p ∈ l.zip l', p.1 = p.2))

section Lists
variable {α : Type} {x y : α} {l l' m m' : List α}

@[simp] theorem concur_cons : Concur (x :: l) (y :: l') ↔ x = y ∧ Concur l l' := by
  simp [Concur]

/-- Beginnings of the same length are equal. -/
theorem Concur.eq_of_append (concur : Concur (l ++ m) (l' ++ m')) (same : l.length = l'.length) :
    l = l' := by
  induction l generalizing l' with
  | nil => exact (List.length_eq_zero_iff.1 same.symm).symm
  | cons x l ih =>
    cases l' with
    | nil => cases same
    | cons y l' =>
      rw [List.cons_append, List.cons_append, concur_cons] at concur
      rw [concur.1, ih concur.2 (Nat.succ.inj same)]

end Lists

/-! ## Replies -/

/-- What a call that no shutdown aborts hears, after `before` attempts and with at most `more` after
the next one, and what it comes to. -/
inductive Hears {ε α : Type} (isBusy : ε → Bool) :
    Nat → Nat → List (Except ε α) → Except (RetryFailure ε) α → Prop where
  | value (before more : Nat) (value : α) : Hears isBusy before more [.ok value] (.ok value)
  | failed (before more : Nat) {e : ε} (other : isBusy e = false) :
      Hears isBusy before more [.error e] (.error (.operation e))
  | exhausted (before : Nat) {e : ε} (busy : isBusy e = true) :
      Hears isBusy before 0 [.error e] (.error (.exhausted (before + 1) e))
  | again (before more : Nat) {e : ε} {replies : List (Except ε α)}
      {result : Except (RetryFailure ε) α} (busy : isBusy e = true)
      (rest : Hears isBusy (before + 1) more replies result) :
      Hears isBusy before (more + 1) (.error e :: replies) result

/-- Calls that hear the same as far as both go come to the same. -/
theorem Hears.unique {ε α : Type} {isBusy : ε → Bool} {before more : Nat}
    {replies replies' : List (Except ε α)} {result result' : Except (RetryFailure ε) α}
    (hears : Hears isBusy before more replies result)
    (hears' : Hears isBusy before more replies' result') (concur : Concur replies replies') :
    replies = replies' ∧ result = result' := by
  induction hears generalizing replies' with
  | value before more value =>
    cases hears' with
    | value => simp_all
    | failed => simp at concur
    | exhausted => simp at concur
    | again => simp at concur
  | failed before more other =>
    cases hears' with
    | value => simp at concur
    | failed => simp_all
    | exhausted before busy => simp_all
    | again before more busy => simp_all
  | exhausted before busy =>
    cases hears' with
    | value => simp at concur
    | failed before more other => simp_all
    | exhausted => simp_all
  | again before more busy rest ih =>
    cases hears' with
    | value => simp at concur
    | failed before more other => simp_all
    | again before more busy' rest' =>
      rw [concur_cons] at concur
      obtain ⟨rfl, same⟩ := ih rest' concur.2
      exact ⟨by rw [Except.error.inj concur.1], same⟩

/-- The function shows the replies to a call, and nothing else of it. -/
structure Shows {ε α δ : Type} (shown? : Moment → Option δ) (view : Except ε α → δ)
    (made : Store → Except ε α → Moment) : Prop where
  replied : ∀ s reply, shown? (made s reply) = some (view reply)
  asked : ∀ s token cancelled, shown? ⟨s, .isCancelled token, cancelled⟩ = none
  waited : ∀ s token policy retry cut, shown? ⟨s, .pause token policy retry, cut⟩ = none

section Calls
variable {ε α δ : Type} {made : Store → Except ε α → Moment} {token : Token} {b : Backoff}
  {isBusy : ε → Bool} {call : Program (Except ε α)} {shown? : Moment → Option δ} {view : Except ε α → δ}

theorem Program.Makes.hears (makes : Makes made call) (shows : Shows shown? view made)
    (before more : Nat) {result : Except (RetryFailure ε) α}
    (run : Runs (Retry.attempt (.ofBackoff token b) isBusy call before more) s t result after)
    (running : ∀ m ∈ t, m.Running) :
    ∃ replies, Hears isBusy before more replies result ∧ t.filterMap shown? = replies.map view := by
  induction more generalizing before s t with
  | zero =>
    rw [Retry.attempt] at run
    obtain ⟨cancelled, _, _, rfl, rfl, run₁⟩ := runs_request_bind_iff.1 run
    obtain rfl : cancelled = false := running _ List.mem_cons_self
    obtain ⟨reply, _, first, rest, rfl, called, run₂⟩ := runs_bind_iff.1 run₁
    obtain ⟨rfl, rfl⟩ := makes _ _ _ _ called
    cases reply with
    | ok value =>
      obtain ⟨rfl, rfl, rfl⟩ := runs_pure_iff.1 run₂
      exact ⟨[.ok value], .value before 0 value, by simp [shows.replied, shows.asked]⟩
    | error e =>
      obtain ⟨rfl, rfl, rfl⟩ := runs_pure_iff.1 run₂
      refine ⟨[.error e], ?_, by simp [shows.replied, shows.asked]⟩
      cases busy : isBusy e with
      | true => exact .exhausted before busy
      | false => exact .failed before 0 busy
  | succ more ih =>
    rw [Retry.attempt] at run
    obtain ⟨cancelled, _, _, rfl, rfl, run₁⟩ := runs_request_bind_iff.1 run
    obtain rfl : cancelled = false := running _ List.mem_cons_self
    obtain ⟨reply, _, first, rest, rfl, called, run₂⟩ := runs_bind_iff.1 run₁
    obtain ⟨rfl, rfl⟩ := makes _ _ _ _ called
    cases reply with
    | ok value =>
      obtain ⟨rfl, rfl, rfl⟩ := runs_pure_iff.1 run₂
      exact ⟨[.ok value], .value before (more + 1) value, by simp [shows.replied, shows.asked]⟩
    | error e =>
      cases busy : isBusy e with
      | false =>
        simp only [busy] at run₂
        obtain ⟨rfl, rfl, rfl⟩ := runs_pure_iff.1 run₂
        exact ⟨[.error e], .failed before (more + 1) busy, by simp [shows.replied, shows.asked]⟩
      | true =>
        simp only [busy, if_true] at run₂
        obtain ⟨cut, _, _, rfl, rfl, run₃⟩ := runs_request_bind_iff.1 run₂
        simp only [List.singleton_append, List.forall_mem_cons] at running
        obtain ⟨-, -, uncut, running⟩ := running
        obtain rfl : cut = false := uncut
        obtain ⟨replies, hears, heard⟩ := ih (before + 1) run₃ running
        refine ⟨.error e :: replies, .again before more busy hears, ?_⟩
        simp [shows.replied, shows.asked, shows.waited, heard]

end Calls

/-- What is sent in a call of an operation, with the Planner's reply. -/
def Moment.exchange? (op : Operation) :
    Moment → Option (List Attempt × Except PlannerError (List ItemResult))
  | ⟨_, .send op' group _ _, reply⟩ => if op' = op then some (group, reply) else none
  | _ => none

/-- What is sent in the calls of an operation, with the replies, in order. -/
def exchanges (op : Operation) (t : List Moment) :
    List (List Attempt × Except PlannerError (List ItemResult)) :=
  t.filterMap (Moment.exchange? op)

/-- The Planner's replies to the calls of an operation. -/
def repliesTo (op : Operation) (t : List Moment) : List (Except PlannerError (List ItemResult)) :=
  (exchanges op t).map Prod.snd

theorem exchanges_append (op : Operation) (t t' : List Moment) :
    exchanges op (t ++ t') = exchanges op t ++ exchanges op t' :=
  List.filterMap_append

theorem shows_exchange (op : Operation) (group : List Attempt) (correlation : String)
    (limit : Duration) :
    Shows (Moment.exchange? op) (fun reply => (group, reply))
      (fun s reply => ⟨s, .send op group correlation limit, reply⟩) :=
  ⟨fun _ _ => if_pos rfl, fun _ _ _ => rfl, fun _ _ _ _ _ => rfl⟩

/-- Two calls with the same group hear the same replies, as far as both go: then they hear the same
to the end, and come to the same. -/
theorem CallPolicy.perform_unique {policy : CallPolicy} {label : String} {op : Operation}
    {group : List Attempt} {correlation correlation' : String} {limit : Duration}
    {answer answer' : Except DomainError (List ItemResult)}
    (run : Runs (policy.perform label (Program.request (.send op group correlation limit)))
      s t answer after)
    (run' : Runs (policy.perform label (Program.request (.send op group correlation' limit)))
      s' t' answer' after')
    (running : ∀ m ∈ t, m.Running) (running' : ∀ m ∈ t', m.Running)
    (concur : Concur (repliesTo op t) (repliesTo op t')) :
    answer = answer' ∧ exchanges op t = exchanges op t' := by
  unfold CallPolicy.perform at run run'
  obtain ⟨tried, _, first, rest, rfl, run₁, run₂⟩ := runs_bind_iff.1 run
  obtain ⟨tried', _, first', rest', rfl, run₁', run₂'⟩ := runs_bind_iff.1 run'
  have last : rest = [] ∧ answer = tried.mapError (·.toDomain label) := by
    cases tried with
    | ok value => exact ⟨(runs_pure_iff.1 run₂).1, (runs_pure_iff.1 run₂).2.1⟩
    | error failure => exact ⟨(runs_pure_iff.1 run₂).1, (runs_pure_iff.1 run₂).2.1⟩
  have last' : rest' = [] ∧ answer' = tried'.mapError (·.toDomain label) := by
    cases tried' with
    | ok value => exact ⟨(runs_pure_iff.1 run₂').1, (runs_pure_iff.1 run₂').2.1⟩
    | error failure => exact ⟨(runs_pure_iff.1 run₂').1, (runs_pure_iff.1 run₂').2.1⟩
  obtain ⟨rfl, rfl⟩ := last
  obtain ⟨rfl, rfl⟩ := last'
  simp only [List.append_nil] at running running' concur ⊢
  have same : tried = tried' ∧ exchanges op first = exchanges op first' := by
    unfold Retry.run at run₁ run₁'
    generalize policy.backoff.maxAttempts.toNat = allowed at run₁ run₁'
    cases allowed with
    | zero =>
      obtain ⟨rfl, rfl, -⟩ := runs_pure_iff.1 run₁
      obtain ⟨rfl, rfl, -⟩ := runs_pure_iff.1 run₁'
      exact ⟨rfl, rfl⟩
    | succ more =>
      obtain ⟨replies, hears, heard⟩ := (makes_send _ _ _ _).hears (shows_exchange op group _ _) _ _
        run₁ running
      obtain ⟨replies', hears', heard'⟩ := (makes_send _ _ _ _).hears (shows_exchange op group _ _)
        _ _ run₁' running'
      have known : Concur replies replies' := by
        simpa [repliesTo, exchanges, heard, heard', Function.comp_def] using concur
      obtain ⟨rfl, rfl⟩ := hears.unique hears' known
      exact ⟨rfl, heard.trans heard'.symm⟩
  exact ⟨by rw [same.1], same.2⟩

/-! ## The call of a group -/

namespace Moment

/-- The operation of a call whose record is to be opened. -/
def opened? : Moment → Option Operation
  | ⟨_, .insertCall call, _⟩ => some call.operation
  | _ => none

/-- A moment that stays with the table of attempts is no exchange. -/
theorem exchange?_of_isLocal {m : Moment} (here : m.request.isLocal [.attempts] = true)
    (op : Operation) : m.exchange? op = none := by
  obtain ⟨store, request, answer⟩ := m
  cases request with
  | send op' group correlation limit => cases here
  | _ => rfl

theorem opened?_of_isLocal {m : Moment} (here : m.request.isLocal [.attempts] = true) :
    m.opened? = none := by
  obtain ⟨store, request, answer⟩ := m
  cases request with
  | insertCall call => cases here
  | _ => rfl

end Moment

namespace Cycle
variable {policy : CallPolicy} {op op' : Operation} {group : List Attempt}
  {result result' : Except DomainError (Uuid × List ItemResult)}

theorem Calling.exchange? {m : Moment} (calling : Calling s op group m) (other : op ≠ op') :
    m.exchange? op' = none := by
  obtain ⟨store, request, answer⟩ := m
  obtain ⟨-, ⟨correlation, limit, rfl⟩ | ⟨token, rfl⟩ | ⟨token, policy, retry, rfl⟩⟩ := calling
  · exact if_neg other
  · rfl
  · rfl

theorem Calling.opened? {m : Moment} (calling : Calling s op group m) :
    m.opened? = none ∧ m.reading? = none := by
  obtain ⟨store, request, answer⟩ := m
  obtain ⟨-, ⟨correlation, limit, rfl⟩ | ⟨token, rfl⟩ | ⟨token, policy, retry, rfl⟩⟩ := calling
  · exact ⟨rfl, rfl⟩
  · exact ⟨rfl, rfl⟩
  · exact ⟨rfl, rfl⟩

/-- The call of a group with storage that takes its record: the record is opened, the call is made,
and the record is closed. -/
inductive Delivers (policy : CallPolicy) (op : Operation) (group : List Attempt) :
    List Moment → Except DomainError (Uuid × List ItemResult) → Prop where
  | called {s opened : Store} {correlation id : Uuid} {startedAt endedAt : Timestamp}
      {calls : List Moment} {reply : Except DomainError (List ItemResult)} {call : Call}
      {closed : Except DomainError Unit}
      (run : Runs (policy.perform op.callLabel
        (Program.request (.send op group correlation.text policy.limit))) opened calls reply
          opened) :
      Delivers policy op group
        ([⟨s, .freshId, correlation⟩, ⟨s, .now, startedAt⟩, ⟨s, .freshId, id⟩] ++
          ⟨s, .insertCall (.start id op correlation.text startedAt), .ok ()⟩ ::
            (calls ++ [⟨opened, .now, endedAt⟩, ⟨opened, .updateCall call, closed⟩]))
        (reply.map (id, ·))

theorem delivers_sendGroup (run : Runs (sendGroup policy op group) s t result after)
    (stored : ∀ m ∈ t, m.Stored) : Delivers policy op group t result := by
  unfold sendGroup at run
  obtain ⟨correlation, _, _, rfl, rfl, run₁⟩ := runs_request_bind_iff.1 run
  obtain ⟨startedAt, _, _, rfl, rfl, run₂⟩ := runs_request_bind_iff.1 run₁
  obtain ⟨id, s, _, rfl, rfl, run₃⟩ := runs_request_bind_iff.1 run₂
  obtain ⟨answer, opened, _, wrote, rfl, run₄⟩ := runs_request_bind_iff.1 run₃
  simp only [List.forall_mem_cons] at stored
  cases answer with
  | error e => exact absurd stored.2.2.2.1 nofun
  | ok u =>
    obtain ⟨reply, _, calls, _, rfl, called, run₅⟩ := runs_bind_iff.1 run₄
    obtain ⟨rfl, -, -⟩ := runs_perform called
    obtain ⟨endedAt, last, _, rfl, rfl, run₆⟩ := runs_request_bind_iff.1 run₅
    cases reply with
    | ok results =>
      obtain ⟨-, rfl, closed, rfl⟩ := runs_finish run₆
      exact .called called
    | error e =>
      obtain ⟨-, rfl, closed, rfl⟩ := runs_finish run₆
      exact .called called

/-- What is exchanged in the call of a group is exchanged in between. -/
theorem exchanges_called {s opened : Store} {correlation id : Uuid} {startedAt endedAt : Timestamp}
    {calls : List Moment} {call call' : Call} {u closed : Except DomainError Unit} :
    exchanges op ([⟨s, .freshId, correlation⟩, ⟨s, .now, startedAt⟩, ⟨s, .freshId, id⟩] ++
      ⟨s, .insertCall call, u⟩ ::
        (calls ++ [⟨opened, .now, endedAt⟩, ⟨opened, .updateCall call', closed⟩])) =
      exchanges op calls := by
  have closing : exchanges op
      [⟨opened, .now, endedAt⟩, ⟨opened, .updateCall call', closed⟩] = [] := rfl
  change exchanges op (calls ++ _) = _
  rw [exchanges_append, closing, List.append_nil]

/-- Nothing is exchanged for another operation. -/
theorem Delivers.exchanges_other (delivers : Delivers policy op group t result)
    (other : op ≠ op') : exchanges op' t = [] := by
  cases delivers with
  | called run =>
    obtain ⟨-, calling, -⟩ := runs_perform run
    rw [exchanges_called]
    exact List.filterMap_eq_nil_iff.2 fun m mem => (calling m mem).exchange? other

/-- Two deliveries of one group that hear the same as far as both go come to the same. -/
theorem Delivers.unique (delivers : Delivers policy op group t result)
    (delivers' : Delivers policy op group t' result') (running : ∀ m ∈ t, m.Running)
    (running' : ∀ m ∈ t', m.Running) (concur : Concur (repliesTo op t) (repliesTo op t')) :
    result.map (·.2) = result'.map (·.2) ∧ exchanges op t = exchanges op t' := by
  cases delivers with
  | @called _ _ _ _ _ _ calls reply _ _ run =>
    cases delivers' with
    | @called _ _ _ _ _ _ calls' reply' _ _ run' =>
      rw [repliesTo, repliesTo, exchanges_called, exchanges_called] at concur
      rw [exchanges_called, exchanges_called]
      have calm : ∀ m ∈ calls, m.Running := fun m mem => running m (by simp [mem])
      have calm' : ∀ m ∈ calls', m.Running := fun m mem => running' m (by simp [mem])
      obtain ⟨rfl, same⟩ := CallPolicy.perform_unique run run' calm calm' concur
      refine ⟨?_, same⟩
      cases reply <;> rfl

end Cycle
end CalendarSync
