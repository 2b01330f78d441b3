import CalendarSync.Proofs.Retry
import Mathlib.Algebra.GroupWithZero.Nat

/-!
# The waits of a retried call

A retried call goes round: an invocation that finds the other side busy, then the wait before the
next one. So its waits are the delays of the policy from the first on, and the tape after a number
of rounds is determined by the course alone. A call either breaks off after some rounds or ends
with one more invocation, which nothing follows. The waits of all rounds that can come before the
last attempt add up to the longest wait that the policy promises.
-/

namespace CalendarSync
set_option autoImplicit false

/-! ## Sums of delays -/

/-- The length of some waits in a row, in nanoseconds. -/
def totalNanos (waits : List Duration) : Nat :=
  (waits.map (·.nanos)).sum

@[simp]
theorem totalNanos_nil : totalNanos [] = 0 := rfl

@[simp]
theorem totalNanos_cons (wait : Duration) (waits : List Duration) :
    totalNanos (wait :: waits) = wait.nanos + totalNanos waits := rfl

theorem totalNanos_append (waits waits' : List Duration) :
    totalNanos (waits ++ waits') = totalNanos waits + totalNanos waits' := by
  simp [totalNanos]

namespace Backoff
variable {policy : Backoff} {sum total : Duration} {first count : Nat}

/-- A sum of delays exists only where each of them does, and then it is their sum. -/
theorem addWaits?_eq_some (known : policy.addWaits? sum first count = some total) :
    ∃ waits : List Duration, waits.map some = (List.range' first count).map policy.delay? ∧
      total.nanos = sum.nanos + totalNanos waits := by
  induction count generalizing sum first with
  | zero =>
    obtain rfl : sum = total := Option.some.inj known
    exact ⟨[], rfl, rfl⟩
  | succ count ih =>
    simp only [addWaits?, Option.bind_eq_bind, Option.bind_eq_some_iff] at known
    obtain ⟨delay, scheduled, next, added, rest⟩ := known
    have next_nanos : next.nanos = sum.nanos + delay.nanos := Duration.ofNanos?_eq_some_iff.1 added
    obtain ⟨waits, delays, total_nanos⟩ := ih rest
    refine ⟨delay :: waits, ?_, ?_⟩
    · rw [List.range'_succ, List.map_cons, List.map_cons, scheduled, delays]
    · rw [total_nanos, next_nanos, totalNanos_cons, Nat.add_assoc]

/-- The longest wait of a call is the sum of the delays before all retries that it can make. -/
theorem worstWait?_eq_some {max : Nat} (known : policy.worstWait? max = some total) :
    ∃ waits : List Duration, waits.map some = (List.range (max - 1)).map policy.delay? ∧
      total.nanos = totalNanos waits := by
  obtain ⟨waits, delays, total_nanos⟩ := addWaits?_eq_some known
  refine ⟨waits, by rw [delays, List.range_eq_range'], ?_⟩
  rw [total_nanos]
  exact Nat.zero_add _

end Backoff

namespace Retry
section Rounds
variable {ε α : Type} {c : Course ε α} {isBusy : ε → Bool} {policy : Backoff} {tape : Tape}
  {result : Except (RetryFailure ε) α} {made more max : Nat} {worst : Duration}

/-! ## Rounds -/

/-- The tape after a number of rounds, each of an invocation and the wait that follows it. -/
def Course.rounds? (c : Course ε α) (policy : Backoff) : Nat → Option Tape
  | 0 => some .blank
  | made + 1 => do
    let tape ← c.rounds? policy made
    let delay ← policy.delay? made
    return c.waited delay made (c.invoked tape)

/-- One more round. -/
theorem rounds?_succ {delay : Duration} (past : c.rounds? policy made = some tape)
    (scheduled : policy.delay? made = some delay) :
    c.rounds? policy (made + 1) = some (c.waited delay made (c.invoked tape)) := by
  simp [Course.rounds?, past, scheduled]

/-- Each round has one invocation and one wait, and the waits are those of the policy. -/
theorem of_rounds? (past : c.rounds? policy made = some tape) :
    tape.calls.length = made ∧ tape.waits.map some = (List.range made).map policy.delay? := by
  induction made generalizing tape with
  | zero =>
    obtain rfl : Tape.blank = tape := Option.some.inj past
    exact ⟨rfl, rfl⟩
  | succ made ih =>
    simp only [Course.rounds?, Option.bind_eq_bind, Option.bind_eq_some_iff] at past
    obtain ⟨before, past, delay, scheduled, last⟩ := past
    obtain rfl := Option.some.inj last
    obtain ⟨length, delays⟩ := ih past
    refine ⟨?_, ?_⟩
    · simp [Course.waited, Course.invoked, length]
    · simp [Course.waited, Course.invoked, delays, scheduled, List.range_succ]

theorem length_waits_of_rounds? (past : c.rounds? policy made = some tape) :
    tape.waits.length = made := by
  simpa using congrArg List.length (of_rounds? past).2

@[simp]
theorem waits_invoked (tape : Tape) : (c.invoked tape).waits = tape.waits := rfl

/-- The ways in which a call with at most `max` attempts ends: it breaks off after some rounds, or
the invocation that follows them is the last thing that happens. -/
inductive Ends (c : Course ε α) (policy : Backoff) (max : Nat) :
    Except (RetryFailure ε) α → Tape → Prop where
  | aborted {made : Nat} {tape : Tape} (past : c.rounds? policy made = some tape)
      (left : made < max) : Ends c policy max (.error (.aborted made)) tape
  | answered {made : Nat} {before : Tape} {result : Except (RetryFailure ε) α}
      (past : c.rounds? policy made = some before) (left : made < max)
      (decided : (∃ value, result = .ok value) ∨ ∃ e, result = .error (.operation e)) :
      Ends c policy max result (c.invoked before)
  | exhausted {made : Nat} {before : Tape} {e : ε} (past : c.rounds? policy made = some before)
      (last : made + 1 = max) :
      Ends c policy max (.error (.exhausted (made + 1) e)) (c.invoked before)

/-- After some rounds an attempt is the last one unless it finds the other side busy. -/
theorem attempt_stops (past : c.rounds? policy made = some tape)
    (stops : c.cancelledBy tape.time = false →
      ∀ e, c.outcome made = .error e → isBusy e = false) :
    ∃ result after, (attempt (c.host policy) isBusy c.call made more).run tape =
      some (result, after) ∧ Ends c policy (made + more + 1) result after := by
  obtain rfl := (of_rounds? past).1
  cases stands : c.cancelledBy tape.time with
  | true => exact ⟨_, _, attempt_cancelled stands, .aborted past (by omega)⟩
  | false =>
    cases outcome : c.outcome tape.calls.length with
    | ok value =>
      exact ⟨_, _, attempt_ok stands outcome, .answered past (by omega) (.inl ⟨value, rfl⟩)⟩
    | error e =>
      exact ⟨_, _, attempt_operation stands outcome (stops stands e outcome),
        .answered past (by omega) (.inr ⟨e, rfl⟩)⟩

/-- A call that stands after some rounds goes on round by round until it ends. -/
theorem attempt_rounds (past : c.rounds? policy made = some tape)
    (schedule : ∀ retry, retry < made + more → (policy.delay? retry).isSome = true) :
    ∃ result after, (attempt (c.host policy) isBusy c.call made more).run tape =
      some (result, after) ∧ Ends c policy (made + more + 1) result after := by
  induction more generalizing made tape with
  | zero =>
    by_cases again : c.cancelledBy tape.time = false ∧
        ∃ e, c.outcome made = .error e ∧ isBusy e = true
    · obtain ⟨stands, e, outcome, busy⟩ := again
      refine ⟨.error (.exhausted (made + 1) e), c.invoked tape, ?_, .exhausted past rfl⟩
      obtain rfl := (of_rounds? past).1
      simp [attempt, stands, outcome, busy]
    · exact attempt_stops past (by grind)
  | succ more ih =>
    by_cases again : c.cancelledBy tape.time = false ∧
        ∃ e, c.outcome made = .error e ∧ isBusy e = true
    · obtain ⟨stands, e, outcome, busy⟩ := again
      obtain ⟨delay, scheduled⟩ := Option.isSome_iff_exists.1 (schedule made (by omega))
      have next := rounds?_succ past scheduled
      cases cut : c.cancelledBy (c.due delay made (c.invoked tape)) with
      | true =>
        refine ⟨.error (.aborted (made + 1)), _, ?_, .aborted next (by omega)⟩
        obtain rfl := (of_rounds? past).1
        simp [attempt, stands, outcome, busy, run_pause scheduled, cut]
      | false =>
        obtain ⟨result, after, rest, ends⟩ := ih next fun retry lt => schedule retry (by omega)
        refine ⟨result, after, ?_, by rwa [show made + (more + 1) = made + 1 + more by omega]⟩
        obtain rfl := (of_rounds? past).1
        simp [attempt, stands, outcome, busy, run_pause scheduled, cut, rest]
    · exact attempt_stops past (by grind)

/-! ## The waits of a call -/

/-- What is promised of the waits of a call with at most `max` attempts, where the waits of all
rounds before the last attempt add up to `worst`. -/
structure Paced (c : Course ε α) (policy : Backoff) (max : Nat) (worst : Duration)
    (result : Except (RetryFailure ε) α) (tape : Tape) : Prop where
  /-- The waits are the delays of the policy in their order, from the first on. -/
  scheduled : tape.waits.map some = (List.range tape.waits.length).map policy.delay?
  /-- A call that is broken off has waited after each of its attempts. -/
  aborted : ∀ attempts, result = .error (.aborted attempts) →
    tape.waits.length = attempts ∧ c.rounds? policy attempts = some tape
  /-- Any other call has waited before each attempt but the first. Nothing follows the last one. -/
  answered : (∀ attempts, result ≠ .error (.aborted attempts)) →
    tape.waits.length + 1 = tape.calls.length ∧
      ∃ before, c.rounds? policy tape.waits.length = some before ∧ tape = c.invoked before
  /-- Nor does anything follow the last attempt that is allowed. -/
  final : tape.calls.length = max →
    tape.waits.length + 1 = max ∧ ∃ before, tape = c.invoked before
  within : totalNanos tape.waits ≤ worst.nanos
  exhausted : ∀ attempts e, result = .error (.exhausted attempts e) →
    totalNanos tape.waits = worst.nanos

/-- Fewer waits of one schedule take no longer. -/
theorem totalNanos_le {waits all : List Duration} {n : Nat}
    (scheduled : waits.map some = (List.range made).map policy.delay?)
    (complete : all.map some = (List.range n).map policy.delay?) (le : made ≤ n) :
    totalNanos waits ≤ totalNanos all := by
  have first : (all.take made).map some = waits.map some := by
    rw [scheduled, List.map_take, complete, ← List.map_take, List.take_range, Nat.min_eq_left le]
  obtain rfl := List.map_inj_right (fun _ _ => Option.some.inj) |>.1 first
  calc totalNanos (all.take made)
      ≤ totalNanos (all.take made) + totalNanos (all.drop made) := Nat.le_add_right _ _
    _ = totalNanos all := by rw [← totalNanos_append, List.take_append_drop]

/-- All waits of a schedule take as long as the schedule. -/
theorem totalNanos_eq {waits all : List Duration}
    (scheduled : waits.map some = (List.range made).map policy.delay?)
    (complete : all.map some = (List.range made).map policy.delay?) :
    totalNanos waits = totalNanos all :=
  Nat.le_antisymm (totalNanos_le scheduled complete (Nat.le_refl _))
    (totalNanos_le complete scheduled (Nat.le_refl _))

/-- A call that an answer ends. -/
theorem Paced.of_answer {before : Tape} (sum : policy.worstWait? max = some worst)
    (past : c.rounds? policy made = some before) (left : made < max)
    (unbroken : ∀ attempts, result ≠ .error (.aborted attempts))
    (full : ∀ attempts e, result = .error (.exhausted attempts e) → made + 1 = max) :
    Paced c policy max worst result (c.invoked before) := by
  obtain ⟨all, complete, total⟩ := Backoff.worstWait?_eq_some sum
  obtain ⟨calls, scheduled⟩ := of_rounds? past
  have waits : before.waits.length = made := length_waits_of_rounds? past
  have invoked : (c.invoked before).calls.length = made + 1 := by
    rw [Course.length_invoked, calls]
  refine ⟨?_, fun attempts aborted => absurd aborted (unbroken attempts), fun _ => ?_,
    fun reached => ?_, ?_, fun attempts e exhausted => ?_⟩
  · rw [waits_invoked, waits, scheduled]
  · refine ⟨by rw [waits_invoked, waits, invoked], before, ?_, rfl⟩
    rw [waits_invoked, waits, past]
  · exact ⟨by rw [waits_invoked, waits, ← reached, invoked], before, rfl⟩
  · exact total ▸ totalNanos_le scheduled complete (by omega)
  · have rounds : max - 1 = made := by have := full attempts e exhausted; omega
    exact total ▸ totalNanos_eq scheduled (rounds ▸ complete)

/-- A call that is broken off. -/
theorem Paced.of_abort (sum : policy.worstWait? max = some worst)
    (past : c.rounds? policy made = some tape) (left : made < max) :
    Paced c policy max worst (.error (.aborted made)) tape := by
  obtain ⟨all, complete, total⟩ := Backoff.worstWait?_eq_some sum
  obtain ⟨calls, scheduled⟩ := of_rounds? past
  have waits : tape.waits.length = made := length_waits_of_rounds? past
  refine ⟨by rw [waits, scheduled], ?_, fun unbroken => absurd rfl (unbroken made),
    fun reached => by omega, ?_, nofun⟩
  · rintro attempts ⟨⟩
    exact ⟨waits, past⟩
  · exact total ▸ totalNanos_le scheduled complete (by omega)

/-- However a call ends, its waits are as promised. -/
theorem Ends.paced (ends : Ends c policy max result tape)
    (sum : policy.worstWait? max = some worst) : Paced c policy max worst result tape := by
  cases ends with
  | aborted past left => exact .of_abort sum past left
  | answered past left decided =>
    refine .of_answer sum past left ?_ ?_
    · rintro attempts rfl
      simp at decided
    · rintro attempts e rfl
      simp at decided
  | exhausted past last => exact .of_answer sum past (by omega) nofun fun _ _ _ => last

end Rounds

/-! ## The call as a whole -/

section Call
variable {ε α : Type} {policy : Backoff} {max : Nat} {worst : Duration}

/-- Where the longest wait of a call is a duration, so is each of its waits. -/
theorem schedule_of_worstWait? (sum : policy.worstWait? max = some worst) :
    ∀ retry, retry + 1 < max → (policy.delay? retry).isSome = true := by
  intro retry lt
  obtain ⟨all, complete, -⟩ := Backoff.worstWait?_eq_some sum
  have known : policy.delay? retry ∈ all.map some := by
    rw [complete]
    exact List.mem_map_of_mem (List.mem_range.2 (by omega))
  obtain ⟨delay, -, scheduled⟩ := List.mem_map.1 known
  rw [← scheduled, Option.isSome_some]

/-- A call that is allowed an attempt, and whose waits add up to a duration at most, ends, and its
waits are the published schedule. -/
theorem run_paced (policy : Backoff) (course : Course ε α) (isBusy : ε → Bool) (label : String)
    (max : Nat) (allowed : 1 ≤ max) (worst : Duration)
    (sum : policy.worstWait? max = some worst) :
    ∃ result tape, (run (course.host policy) isBusy label max course.call).run .blank =
        some (result, tape) ∧
      Paced course policy max worst result tape := by
  obtain ⟨more, rfl⟩ : ∃ more, max = more + 1 := ⟨max - 1, by omega⟩
  have schedule := schedule_of_worstWait? sum
  have blank : course.rounds? policy 0 = some .blank := rfl
  obtain ⟨result, tape, run, ends⟩ := attempt_rounds blank fun retry (lt : retry < 0 + more) =>
    schedule retry (by omega)
  rw [Nat.zero_add] at ends
  exact ⟨result, tape, run, ends.paced sum⟩

/-- The Planner is busy all along, and nobody asks for a shutdown. -/
def Course.jammed : Course Unit Unit where
  outcome := fun _ => .error ()
  duration := fun _ => 10000000
  lag := fun _ => 1000000
  token := none
  parent := none

/-- Three waits lie between four attempts, and none follows the last one. -/
theorem run_paced_jammed :
    (1 ≤ 4 ∧ Backoff.standard.worstWait? 4 = some (.ofMillis 1400)) ∧
    ∃ tape,
      (run (Course.jammed.host .standard) (fun _ => true) "create_events" 4
        Course.jammed.call).run .blank = some (.error (.exhausted 4 ()), tape) ∧
      tape.calls.length = 4 ∧ tape.waits = [.ofMillis 200, .ofMillis 400, .ofMillis 800] ∧
      Paced Course.jammed .standard 4 (.ofMillis 1400) (.error (.exhausted 4 ())) tape := by
  have sum : Backoff.standard.worstWait? 4 = some (.ofMillis 1400) := by decide +kernel
  obtain ⟨result, tape, ran, paced⟩ :=
    run_paced .standard Course.jammed (fun _ => true) "create_events" 4 (by decide) _ sum
  have known : ((run (Course.jammed.host .standard) (fun _ => true) "create_events" 4
      Course.jammed.call).run .blank).map (fun (result, tape) =>
        (match result with | .error failure => some failure | .ok () => none,
          tape.calls.length, tape.waits)) =
      some (some (.exhausted 4 ()), 4, [.ofMillis 200, .ofMillis 400, .ofMillis 800]) := by
    decide +kernel
  rw [ran, Option.map_some, Option.some.injEq, Prod.mk.injEq, Prod.mk.injEq] at known
  obtain ⟨failed, calls, waits⟩ := known
  cases result with
  | ok value => simp at failed
  | error failure =>
    obtain rfl : failure = .exhausted 4 () := Option.some.inj failed
    exact ⟨⟨by decide, sum⟩, tape, ran, calls, waits, paced⟩

end Call
end Retry
end CalendarSync
