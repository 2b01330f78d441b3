import CalendarSync.Proofs.Run

/-!
# Calls that are repeated

A call that is repeated while the Planner is busy leaves the tables alone as each try does, and it
succeeds with what its first successful try brings.
-/

namespace CalendarSync
set_option autoImplicit false
open Program Simulation

/-- In every run the program leaves the tables alone and all its moments are of a kind. It succeeds
with the first value that can be read off a moment, and fails where there is none. -/
def Program.Asks {ε α : Type} (kind : Moment → Prop) (read? : Moment → Option α)
    (p : Program (Except ε α)) : Prop :=
  ∀ s t answer after, Runs p s t answer after →
    after = s ∧ (∀ m ∈ t, m.store = s ∧ kind m) ∧ t.findSome? read? = answer.toOption

/-- Looking for a shutdown and waiting are of the kind too, and nothing can be read off them. -/
structure Moment.Waiting {α : Type} (kind : Moment → Prop) (read? : Moment → Option α) : Prop where
  looking : ∀ s token cancelled, kind ⟨s, .isCancelled token, cancelled⟩ ∧
    read? ⟨s, .isCancelled token, cancelled⟩ = none
  pausing : ∀ s token policy retry cut, kind ⟨s, .pause token policy retry, cut⟩ ∧
    read? ⟨s, .pause token policy retry, cut⟩ = none

namespace Program.Asks
variable {ε δ α : Type} {kind : Moment → Prop} {read? : Moment → Option α}

theorem fail (e : ε) : Asks kind read? (pure (.error e)) := by
  intro s t answer after run
  obtain ⟨rfl, rfl, rfl⟩ := runs_pure_iff.1 run
  exact ⟨rfl, by simp, rfl⟩

/-- A request that leaves the tables alone and off which nothing can be read. -/
theorem skip {r : Request} {f : r.Answer → Program (Except ε α)}
    (leaves : ∀ (s : Store) answer after, s.Answers r answer after → after = s)
    (silent : ∀ s answer, kind ⟨s, r, answer⟩ ∧ read? ⟨s, r, answer⟩ = none)
    (rest : ∀ answer, Asks kind read? (f answer)) : Asks kind read? (request r >>= f) := by
  intro s t answer after run
  obtain ⟨found, middle, last, answers, rfl, run'⟩ := runs_request_bind_iff.1 run
  obtain rfl := leaves s found middle answers
  obtain ⟨rfl, seen, read⟩ := rest found _ _ _ _ run'
  obtain ⟨first, none⟩ := silent after found
  refine ⟨rfl, List.forall_mem_cons.2 ⟨⟨rfl, first⟩, seen⟩, ?_⟩
  rw [List.findSome?_cons, none]
  exact read

/-- Success is handed on, and a failure is followed by something else. -/
theorem followed {p : Program (Except δ α)} {f : Except δ α → Program (Except ε α)}
    (asks : Asks kind read? p) (ok : ∀ value, f (.ok value) = pure (.ok value))
    (error : ∀ e, Asks kind read? (f (.error e))) : Asks kind read? (p >>= f) := by
  intro s t answer after run
  obtain ⟨found, middle, first, rest, rfl, run, last⟩ := runs_bind_iff.1 run
  obtain ⟨rfl, seen, read⟩ := asks _ _ _ _ run
  rw [List.findSome?_append, read]
  cases found with
  | ok value =>
    rw [ok] at last
    obtain ⟨rfl, rfl, rfl⟩ := runs_pure_iff.1 last
    exact ⟨rfl, by simpa using seen, rfl⟩
  | error e =>
    obtain ⟨rfl, seen', read'⟩ := error e _ _ _ _ last
    exact ⟨rfl, List.forall_mem_append.2 ⟨seen, seen'⟩, read'⟩

variable {token : Token} {b : Backoff} {isBusy : ε → Bool} {call : Program (Except ε α)}

/-- Each try is made unless a shutdown has been requested. -/
theorem attempt (waiting : Moment.Waiting kind read?) (asks : Asks kind read? call)
    (made more : Nat) :
    Asks kind read? (Retry.attempt (.ofBackoff token b) isBusy call made more) := by
  induction more generalizing made with
  | zero =>
    rw [Retry.attempt]
    refine skip (fun _ _ _ same => same) (waiting.looking · token) fun cancelled => ?_
    split
    · exact fail _
    · exact asks.followed (fun _ => rfl) fun e => fail _
  | succ more ih =>
    rw [Retry.attempt]
    refine skip (fun _ _ _ same => same) (waiting.looking · token) fun cancelled => ?_
    split
    · exact fail _
    refine asks.followed (fun _ => rfl) fun e => ?_
    simp only
    split
    · refine skip (fun _ _ _ same => same) (waiting.pausing · token b made) fun cut => ?_
      split
      · exact fail _
      · exact ih (made + 1)
    · exact fail _

theorem perform {policy : CallPolicy} {label : String} {call : Program (Except PlannerError α)}
    (waiting : Moment.Waiting kind read?) (asks : Asks kind read? call) :
    Asks kind read? (policy.perform label call) := by
  have tries : Asks kind read? (Retry.run (.ofBackoff policy.token policy.backoff)
      PlannerError.isBusy label policy.backoff.maxAttempts.toNat call) := by
    unfold Retry.run
    split
    · exact fail _
    · exact asks.attempt waiting 0 _
  exact tries.followed (fun _ => rfl) fun e => fail _

end Program.Asks
end CalendarSync
