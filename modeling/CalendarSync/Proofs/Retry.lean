import CalendarSync.Backoff
import CalendarSync.Retry

/-!
# Retried calls

What a retried call comes to, for every sequence of outcomes, however long the invocations and the
waits take and whenever a shutdown is requested. A course says all this beforehand; a tape keeps
what happens. Attempts may as well be counted in 32 bits.
-/

namespace CalendarSync.Retry
set_option autoImplicit false

/-! ## Courses -/

/-- What a retried call meets, with times in nanoseconds. -/
structure Course (ε α : Type) where
  /-- The outcome of each invocation, counted from zero. -/
  outcome : Nat → Except ε α
  /-- How long each invocation takes to answer. -/
  duration : Nat → Nat
  /-- By how much each wait outlasts what was asked for. -/
  lag : Nat → Nat
  /-- When the token is cancelled, if it is. -/
  token : Option Nat
  /-- When the token that it is a child of is cancelled, if it is. -/
  parent : Option Nat

/-- What has happened so far. -/
structure Tape where
  time : Nat
  /-- When the invocations started, in order. -/
  calls : List Nat
  /-- The waits that were asked for, in order. -/
  waits : List Duration

/-- Nothing has happened. -/
def Tape.blank : Tape := ⟨0, [], []⟩

/-- The steps of a retried call; none where a wait is longer than any duration. -/
abbrev Taped := StateT Tape Option

namespace Course
variable {ε α : Type} (c : Course ε α)

/-- The token or its parent has been cancelled by an instant. -/
def cancelledBy (instant : Nat) : Bool :=
  c.token.any (· ≤ instant) || c.parent.any (· ≤ instant)

/-- When a wait from `now` until `due` ends: a cancellation cuts it short. -/
def wake (now due : Nat) : Nat :=
  max now (min (c.token.getD due) (min (c.parent.getD due) due))

/-- The tape after one more invocation. -/
def invoked (tape : Tape) : Tape :=
  { tape with
    time := tape.time + c.duration tape.calls.length
    calls := tape.calls ++ [tape.time] }

/-- Invokes the action. -/
def call : Taped (Except ε α) := fun tape =>
  some (c.outcome tape.calls.length, c.invoked tape)

/-- When a wait before a retry ends if no cancellation cuts it short. -/
def due (delay : Duration) (retry : Nat) (tape : Tape) : Nat :=
  tape.time + delay.nanos + c.lag retry

/-- The tape after a wait before a retry. -/
def waited (delay : Duration) (retry : Nat) (tape : Tape) : Tape :=
  { tape with
    time := c.wake tape.time (c.due delay retry tape)
    waits := tape.waits ++ [delay] }

/-- Waits before a retry. Where the end of the wait and a cancellation coincide the wait is cut. -/
def pause (policy : Backoff) (retry : Nat) : Taped Bool := fun tape => do
  let delay ← policy.delay? retry
  return (c.cancelledBy (c.due delay retry tape), c.waited delay retry tape)

/-- The surroundings of a retried call. -/
def host (policy : Backoff) : Host Taped where
  isCancelled := fun tape => some (c.cancelledBy tape.time, tape)
  pause := c.pause policy

/-- The outcome of the last invocation of a tape, if there is one. -/
def last? (tape : Tape) : Option (Except ε α) :=
  match tape.calls.length with
  | 0 => none
  | made + 1 => some (c.outcome made)

variable {c}

@[simp]
theorem length_invoked (tape : Tape) :
    (c.invoked tape).calls.length = tape.calls.length + 1 := by
  simp [invoked]

@[simp]
theorem last?_invoked (tape : Tape) :
    c.last? (c.invoked tape) = some (c.outcome tape.calls.length) := by
  simp [last?]

theorem cancelledBy_mono {earlier later : Nat} (le : earlier ≤ later)
    (cancelled : c.cancelledBy earlier = true) : c.cancelledBy later = true := by
  simp only [cancelledBy, Bool.or_eq_true, Option.any_eq_true, decide_eq_true_eq] at *
  refine cancelled.imp ?_ ?_
  · rintro ⟨moment, known, before⟩
    exact ⟨moment, known, Nat.le_trans before le⟩
  · rintro ⟨moment, known, before⟩
    exact ⟨moment, known, Nat.le_trans before le⟩

/-- A wait that was cut ended with the cancellation. -/
theorem cancelledBy_wake {now due : Nat} (cancelled : c.cancelledBy due = true) :
    c.cancelledBy (c.wake now due) = true := by
  refine cancelledBy_mono (Nat.le_max_right _ _) ?_
  cases token : c.token <;> cases parent : c.parent <;>
    simp [cancelledBy, token, parent] at cancelled ⊢ <;> omega

end Course

/-! ## What becomes of a call -/

section Meets
variable {ε α : Type} {c : Course ε α} {isBusy : ε → Bool} {policy : Backoff} {tape : Tape}
  {result : Except (RetryFailure ε) α} {made more max : Nat}

/-- What is promised of a call with at most `max` attempts, given its result and its tape. -/
structure Meets (c : Course ε α) (isBusy : ε → Bool) (max : Nat)
    (result : Except (RetryFailure ε) α) (tape : Tape) : Prop where
  bounded : tape.calls.length ≤ max
  /-- No invocation starts after a cancellation. -/
  before : ∀ instant ∈ tape.calls, c.cancelledBy instant = false
  /-- Only the last outcome may be another one than a busy failure. -/
  busy : ∀ k, k + 1 < tape.calls.length → ∃ e, c.outcome k = .error e ∧ isBusy e = true
  ok : ∀ value, result = .ok value ↔ c.last? tape = some (.ok value)
  operation : ∀ e, result = .error (.operation e) ↔
    c.last? tape = some (.error e) ∧ isBusy e = false
  exhausted : ∀ attempts e, result = .error (.exhausted attempts e) ↔
    attempts = tape.calls.length ∧ tape.calls.length = max ∧
      c.last? tape = some (.error e) ∧ isBusy e = true
  /-- In every other case the call is aborted. -/
  aborted : ∀ attempts, result = .error (.aborted attempts) ↔
    attempts = tape.calls.length ∧ (∀ value, c.last? tape ≠ some (.ok value)) ∧
      ∀ e, c.last? tape = some (.error e) → isBusy e = true ∧ tape.calls.length ≠ max
  cancelled : ∀ attempts, result = .error (.aborted attempts) → c.cancelledBy tape.time = true

/-- The result that the last outcome of a tape calls for. -/
def Course.verdict (c : Course ε α) (isBusy : ε → Bool) (max : Nat) (tape : Tape) :
    Except (RetryFailure ε) α :=
  match c.last? tape with
  | none => .error (.aborted tape.calls.length)
  | some (.ok value) => .ok value
  | some (.error e) =>
    if isBusy e then
      if tape.calls.length = max then .error (.exhausted max e)
      else .error (.aborted tape.calls.length)
    else .error (.operation e)

theorem Meets.of_verdict (bounded : tape.calls.length ≤ max)
    (before : ∀ instant ∈ tape.calls, c.cancelledBy instant = false)
    (busy : ∀ k, k + 1 < tape.calls.length → ∃ e, c.outcome k = .error e ∧ isBusy e = true)
    (verdict : result = c.verdict isBusy max tape)
    (cancelled : ∀ attempts, result = .error (.aborted attempts) →
      c.cancelledBy tape.time = true) : Meets c isBusy max result tape := by
  unfold Course.verdict at verdict
  rcases last : c.last? tape with _ | (e | value)
  · simp only [last] at verdict
    exact ⟨bounded, before, busy, by grind, by grind, by grind, by grind, cancelled⟩
  · by_cases again : isBusy e = true
    · by_cases full : tape.calls.length = max
      · simp only [last, again, full, if_true] at verdict
        exact ⟨bounded, before, busy, by grind, by grind, by grind, by grind, cancelled⟩
      · simp only [last, again, full, if_true, if_false] at verdict
        exact ⟨bounded, before, busy, by grind, by grind, by grind, by grind, cancelled⟩
    · simp only [last, again, Bool.false_eq_true, if_false] at verdict
      exact ⟨bounded, before, busy, by grind, by grind, by grind, by grind, cancelled⟩
  · simp only [last] at verdict
    exact ⟨bounded, before, busy, by grind, by grind, by grind, by grind, cancelled⟩

/-- A tape on which the other side has been busy so far. -/
structure Busy (c : Course ε α) (isBusy : ε → Bool) (made : Nat) (tape : Tape) : Prop where
  length : tape.calls.length = made
  before : ∀ instant ∈ tape.calls, c.cancelledBy instant = false
  busy : ∀ k, k < made → ∃ e, c.outcome k = .error e ∧ isBusy e = true

/-- A cancellation ends the call where it stands. -/
theorem Busy.abort (known : Busy c isBusy made tape) (left : made < max)
    (cancelled : c.cancelledBy tape.time = true) :
    Meets c isBusy max (.error (.aborted made)) tape := by
  obtain ⟨rfl, before, busy⟩ := known
  refine .of_verdict (Nat.le_of_lt left) before (fun k lt => busy k (by omega)) ?_
    fun _ _ => cancelled
  cases length : tape.calls.length with
  | zero => simp [Course.verdict, Course.last?, length]
  | succ made =>
    obtain ⟨e, outcome, again⟩ := busy made (by omega)
    have below : made + 1 ≠ max := by omega
    simp [Course.verdict, Course.last?, length, outcome, again, below]

/-- One more invocation that finds the other side busy. -/
theorem Busy.invoke {e : ε} (known : Busy c isBusy made tape)
    (stands : c.cancelledBy tape.time = false) (outcome : c.outcome made = .error e)
    (again : isBusy e = true) : Busy c isBusy (made + 1) (c.invoked tape) := by
  obtain ⟨rfl, before, busy⟩ := known
  refine ⟨Course.length_invoked tape, ?_, fun k lt => ?_⟩
  · exact List.forall_mem_append.2 ⟨before, List.forall_mem_singleton.2 stands⟩
  · rcases Nat.lt_succ_iff_lt_or_eq.1 lt with earlier | rfl
    · exact busy k earlier
    · exact ⟨e, outcome, again⟩

/-- The last invocation decides what becomes of the call. -/
theorem Busy.finish {result : Except (RetryFailure ε) α} (known : Busy c isBusy made tape)
    (left : made < max) (stands : c.cancelledBy tape.time = false)
    (verdict : result = c.verdict isBusy max (c.invoked tape))
    (final : ∀ attempts, result ≠ .error (.aborted attempts)) :
    Meets c isBusy max result (c.invoked tape) := by
  obtain ⟨rfl, before, busy⟩ := known
  have length : (c.invoked tape).calls.length = tape.calls.length + 1 :=
    Course.length_invoked tape
  refine .of_verdict (by omega) ?_ (fun k lt => busy k (by omega)) verdict
    fun attempts aborted => absurd aborted (final attempts)
  exact List.forall_mem_append.2 ⟨before, List.forall_mem_singleton.2 stands⟩

/-- A wait leaves what was invoked as it is. -/
theorem Busy.wait (known : Busy c isBusy made tape) (delay : Duration) (retry : Nat) :
    Busy c isBusy made (c.waited delay retry tape) :=
  ⟨known.length, known.before, known.busy⟩

/-! ## The loop -/

@[simp]
theorem run_isCancelled : (c.host policy).isCancelled.run tape =
    some (c.cancelledBy tape.time, tape) := rfl

@[simp]
theorem run_call : c.call.run tape = some (c.outcome tape.calls.length, c.invoked tape) := rfl

theorem run_pause {delay : Duration} {retry : Nat} (known : policy.delay? retry = some delay) :
    ((c.host policy).pause retry).run tape =
      some (c.cancelledBy (c.due delay retry tape), c.waited delay retry tape) := by
  change c.pause policy retry tape = _
  simp [Course.pause, known]

/-- The three ways in which a call ends whether or not attempts are left. -/
theorem attempt_cancelled (stands : c.cancelledBy tape.time = true) :
    (attempt (c.host policy) isBusy c.call made more).run tape =
      some (.error (.aborted made), tape) := by
  cases more <;> simp [attempt, stands]

theorem attempt_ok {value : α} (stands : c.cancelledBy tape.time = false)
    (outcome : c.outcome tape.calls.length = .ok value) :
    (attempt (c.host policy) isBusy c.call made more).run tape =
      some (.ok value, c.invoked tape) := by
  cases more <;> simp [attempt, stands, outcome]

theorem attempt_operation {e : ε} (stands : c.cancelledBy tape.time = false)
    (outcome : c.outcome tape.calls.length = .error e) (final : isBusy e = false) :
    (attempt (c.host policy) isBusy c.call made more).run tape =
      some (.error (.operation e), c.invoked tape) := by
  cases more <;> simp [attempt, stands, outcome, final]

/-- An attempt is the last one unless it finds the other side busy. -/
theorem attempt_ends (known : Busy c isBusy made tape)
    (ends : c.cancelledBy tape.time = false →
      ∀ e, c.outcome made = .error e → isBusy e = false) :
    ∃ result after, (attempt (c.host policy) isBusy c.call made more).run tape =
      some (result, after) ∧ Meets c isBusy (made + more + 1) result after := by
  obtain rfl := known.length
  cases stands : c.cancelledBy tape.time with
  | true => exact ⟨_, _, attempt_cancelled stands, known.abort (by omega) stands⟩
  | false =>
    cases outcome : c.outcome tape.calls.length with
    | ok value =>
      exact ⟨_, _, attempt_ok stands outcome,
        known.finish (by omega) stands (by simp [Course.verdict, outcome]) nofun⟩
    | error e =>
      have final := ends stands e outcome
      exact ⟨_, _, attempt_operation stands outcome final,
        known.finish (by omega) stands (by simp [Course.verdict, outcome, final]) nofun⟩

/-- The attempts that follow `made` busy ones. -/
theorem attempt_meets (known : Busy c isBusy made tape)
    (schedule : ∀ retry, retry < made + more → (policy.delay? retry).isSome = true) :
    ∃ result after, (attempt (c.host policy) isBusy c.call made more).run tape =
      some (result, after) ∧ Meets c isBusy (made + more + 1) result after := by
  induction more generalizing made tape with
  | zero =>
    by_cases again : c.cancelledBy tape.time = false ∧
        ∃ e, c.outcome made = .error e ∧ isBusy e = true
    · obtain ⟨stands, e, outcome, busy⟩ := again
      obtain rfl := known.length
      refine ⟨.error (.exhausted (tape.calls.length + 1) e), c.invoked tape, ?_,
        known.finish (by omega) stands (by simp [Course.verdict, outcome, busy]) nofun⟩
      simp [attempt, stands, outcome, busy]
    · exact attempt_ends known (by grind)
  | succ more ih =>
    by_cases again : c.cancelledBy tape.time = false ∧
        ∃ e, c.outcome made = .error e ∧ isBusy e = true
    · obtain ⟨stands, e, outcome, busy⟩ := again
      obtain ⟨delay, scheduled⟩ := Option.isSome_iff_exists.1 (schedule made (by omega))
      have next := (known.invoke stands outcome busy).wait delay made
      cases cut : c.cancelledBy (c.due delay made (c.invoked tape)) with
      | true =>
        refine ⟨.error (.aborted (made + 1)), c.waited delay made (c.invoked tape), ?_,
          next.abort (by omega) (Course.cancelledBy_wake cut)⟩
        obtain rfl := known.length
        simp [attempt, stands, outcome, busy, run_pause scheduled, cut]
      | false =>
        obtain ⟨result, after, rest, meets⟩ := ih next fun retry lt => schedule retry (by omega)
        refine ⟨result, after, ?_, by rwa [show made + (more + 1) = made + 1 + more by omega]⟩
        obtain rfl := known.length
        simp [attempt, stands, outcome, busy, run_pause scheduled, cut, rest]
    · exact attempt_ends known (by grind)

end Meets

/-! ## Counting in 32 bits -/

section Counted
variable {m : Type → Type} [Monad m] {ε α : Type} {max attempts : UInt32}

/-- A count below a bound goes up by one, without wrapping around. -/
theorem toNat_count (left : attempts < max) : (attempts + 1).toNat = attempts.toNat + 1 := by
  have := UInt32.lt_iff_toNat_lt.1 left
  have := max.toNat_lt
  rw [UInt32.toNat_add, UInt32.toNat_one]
  omega

/-- The loop over the attempts of a call, with a count of 32 bits that may wrap around. -/
def attemptCounted (host : Host m) (isBusy : ε → Bool) (action : m (Except ε α))
    (max attempts : UInt32) (_ : attempts < max) : m (Except (RetryFailure ε) α) := do
  if ← host.isCancelled then
    return .error (.aborted attempts.toNat)
  match ← action with
  | .ok value => return .ok value
  | .error e =>
    if isBusy e then
      if left : attempts + 1 < max then
        if ← host.pause attempts.toNat then
          return .error (.aborted (attempts + 1).toNat)
        attemptCounted host isBusy action max (attempts + 1) left
      else
        return .error (.exhausted (attempts + 1).toNat e)
    else
      return .error (.operation e)
termination_by max.toNat - attempts.toNat
decreasing_by
  have below : attempts < max := ‹_›
  have := UInt32.lt_iff_toNat_lt.1 below
  rw [toNat_count below]
  omega

/-- A call with up to `max` attempts that are counted in 32 bits. -/
def runCounted (host : Host m) (isBusy : ε → Bool) (label : String) (max : UInt32)
    (action : m (Except ε α)) : m (Except (RetryFailure ε) α) :=
  if left : 0 < max then attemptCounted host isBusy action max 0 left
  else return .error (.invalid s!"{label}: max_attempts must be greater than 0")

variable {host : Host m} {isBusy : ε → Bool} {action : m (Except ε α)}

theorem attemptCounted_eq (left : attempts < max) {more : Nat}
    (all : max.toNat = attempts.toNat + more + 1) :
    attemptCounted host isBusy action max attempts left =
      attempt host isBusy action attempts.toNat more := by
  induction more generalizing attempts with
  | zero =>
    have last : ¬ attempts + 1 < max := by
      rw [UInt32.lt_iff_toNat_lt, toNat_count left]; omega
    rw [attemptCounted, attempt]
    refine bind_congr fun cancelled => ?_
    cases cancelled with
    | true => rfl
    | false =>
      refine bind_congr (x := action) fun outcome => ?_
      cases outcome with
      | ok value => rfl
      | error e =>
        simp only [last, dite_false, toNat_count left]
        split <;> rfl
  | succ more ih =>
    have further : attempts + 1 < max := by
      rw [UInt32.lt_iff_toNat_lt, toNat_count left]; omega
    have rest := ih further (by rw [toNat_count left]; omega)
    rw [attemptCounted, attempt]
    refine bind_congr fun cancelled => ?_
    cases cancelled with
    | true => rfl
    | false =>
      refine bind_congr (x := action) fun outcome => ?_
      cases outcome with
      | ok value => rfl
      | error e => simp only [further, dite_true, rest, toNat_count left]

/-- The count never wraps around: it might as well be a natural number. -/
theorem runCounted_eq (label : String) :
    runCounted host isBusy label max action = run host isBusy label max.toNat action := by
  cases bound : max.toNat with
  | zero =>
    obtain rfl : max = 0 := UInt32.toNat_inj.1 bound
    simp [runCounted, run]
  | succ more =>
    have left : 0 < max := UInt32.lt_iff_toNat_lt.2 (by rw [UInt32.toNat_zero]; omega)
    rw [runCounted, dif_pos left, attemptCounted_eq left (show max.toNat = 0 + more + 1 by omega)]
    rfl

end Counted

/-! ## The call as a whole -/

section Call
variable {ε α : Type} {policy : Backoff}

/-- Powers of the multiplier stop growing, and so do the waits. -/
theorem delay?_min (policy : Backoff) (retry : Nat) :
    policy.delay? (min retry Backoff.largestExponent) = policy.delay? retry := by
  unfold Backoff.delay?
  rw [Nat.min_assoc, Nat.min_self]

theorem standard_schedule (retry : Nat) : (Backoff.standard.delay? retry).isSome = true := by
  have first : ∀ retry : Fin 31, (Backoff.standard.delay? retry).isSome = true := by
    decide +kernel
  rw [← delay?_min]
  exact first ⟨min retry Backoff.largestExponent, by unfold Backoff.largestExponent; omega⟩

/-- Where every wait is a duration, every call ends, counted in 32 bits or not. One without attempts
is refused outright; any other keeps what is promised of it. -/
theorem run_meets (policy : Backoff)
    (schedule : ∀ retry : UInt32, (policy.delay? retry.toNat).isSome = true)
    (course : Course ε α) (isBusy : ε → Bool) (label : String) (max : UInt32) :
    runCounted (course.host policy) isBusy label max course.call =
      run (course.host policy) isBusy label max.toNat course.call ∧
    ∃ result tape, (runCounted (course.host policy) isBusy label max course.call).run .blank =
        some (result, tape) ∧
      (max = 0 → tape = .blank ∧
        result = .error (.invalid (label ++ ": max_attempts must be greater than 0"))) ∧
      (max ≠ 0 → Meets course isBusy max.toNat result tape) := by
  refine ⟨runCounted_eq label, ?_⟩
  rw [runCounted_eq]
  cases bound : max.toNat with
  | zero =>
    obtain rfl : max = 0 := UInt32.toNat_inj.1 bound
    exact ⟨_, _, rfl, fun _ => ⟨rfl, rfl⟩, fun some => absurd rfl some⟩
  | succ more =>
    have unbroken : Busy course isBusy 0 .blank := ⟨rfl, nofun, nofun⟩
    have waits (retry : Nat) (lt : retry < 0 + more) : (policy.delay? retry).isSome = true := by
      have fits : retry < UInt32.size := by
        have := max.toNat_lt
        simp only [UInt32.size]; omega
      simpa [UInt32.toNat_ofNat_of_lt' fits] using schedule (.ofNat retry)
    obtain ⟨result, after, run, meets⟩ := attempt_meets unbroken waits
    refine ⟨result, after, run, ?_, fun _ => by simpa using meets⟩
    rintro rfl
    cases bound

/-- The Planner is busy all along, and the shutdown comes during the second wait. -/
def Course.cut : Course Unit Unit where
  outcome := fun _ => .error ()
  duration := fun _ => 10000000
  lag := fun _ => 0
  token := none
  parent := some 300000000

theorem run_meets_cut :
    (∀ retry : UInt32, (Backoff.standard.delay? retry.toNat).isSome = true) ∧
    ∃ result tape,
      (runCounted (Course.cut.host .standard) (fun _ => true) "create_events" 4
        Course.cut.call).run .blank = some (result, tape) ∧
      Meets Course.cut (fun _ => true) 4 result tape := by
  have schedule (retry : UInt32) := standard_schedule retry.toNat
  obtain ⟨-, result, tape, run, -, meets⟩ :=
    run_meets .standard schedule Course.cut (fun _ => true) "create_events" 4
  exact ⟨schedule, result, tape, run, meets (by decide)⟩

/-- The second wait is cut short, so that only two invocations start. -/
example : ((run (Course.cut.host .standard) (fun _ => true) "create_events" 4
    Course.cut.call).run .blank).map (fun (_, tape) => (tape.calls, tape.time)) =
      some ([0, 210000000], 300000000) := by decide +kernel

end Call
end CalendarSync.Retry
