import CalendarSync.Proofs.Footprint
import CalendarSync.Proofs.Growth
import CalendarSync.Proofs.World

/-!
# Programs that run at the same time

Two programs share the tables, and their requests come one at a time in any order. What a program
asks depends on the answers that it got and on nothing else, so that an interleaved run is a path of
each program, merged, with moments of which each one shows the tables as the one before it left them.
-/

namespace CalendarSync
set_option autoImplicit false
open Simulation

/-- A way through a program, with any answers and whatever the tables show. -/
inductive Program.Path {α : Type} : Program α → List Moment → α → Prop where
  | done (value : α) : Path (.done value) [] value
  | ask {r : Request} {next : r.Answer → Program α} (s : Store) {answer : r.Answer}
      {t : List Moment} {value : α} (rest : Path (next answer) t value) :
      Path (.ask r next) (⟨s, r, answer⟩ :: t) value

/-- Each moment shows the tables as the one before it left them. -/
inductive Linked : Store → List Moment → Store → Prop where
  | nil (s : Store) : Linked s [] s
  | cons {s middle after : Store} {r : Request} {answer : r.Answer} {t : List Moment}
      (answered : s.Answers r answer middle) (rest : Linked middle t after) :
      Linked s (⟨s, r, answer⟩ :: t) after

namespace Program
variable {α β : Type} {s after : Store} {t : List Moment}

/-! ## Paths -/

theorem path_pure_iff {value result : α} :
    Path (pure value) t result ↔ t = [] ∧ result = value := by
  constructor
  · intro path
    cases path
    exact ⟨rfl, rfl⟩
  · rintro ⟨rfl, rfl⟩
    exact .done _

theorem path_ask_iff {r : Request} {next : r.Answer → Program α} {result : α} :
    Path (.ask r next) t result ↔
      ∃ s answer rest, t = ⟨s, r, answer⟩ :: rest ∧ Path (next answer) rest result := by
  constructor
  · intro path
    cases path with
    | ask s rest => exact ⟨s, _, _, rfl, rest⟩
  · rintro ⟨s, answer, rest, rfl, path⟩
    exact .ask s path

theorem path_bind_iff {p : Program α} {f : α → Program β} {result : β} :
    Path (p >>= f) t result ↔
      ∃ value first rest, t = first ++ rest ∧ Path p first value ∧ Path (f value) rest result := by
  induction p generalizing t with
  | done value =>
    constructor
    · exact fun path => ⟨value, [], t, rfl, .done value, path⟩
    · rintro ⟨_, _, _, rfl, first, path⟩
      cases first
      exact path
  | ask r next ih =>
    change Path (.ask r fun answer => next answer >>= f) t result ↔ _
    simp only [path_ask_iff, ih]
    constructor
    · rintro ⟨s, answer, _, rfl, value, first, rest, rfl, path, path'⟩
      exact ⟨value, _ :: first, rest, rfl, ⟨s, answer, first, rfl, path⟩, path'⟩
    · rintro ⟨value, _, rest, rfl, ⟨s, answer, first, rfl, path⟩, path'⟩
      exact ⟨s, answer, _, rfl, value, first, rest, rfl, path, path'⟩

theorem path_request_iff {r : Request} {result : r.Answer} :
    Path (request r) t result ↔ ∃ s, t = [⟨s, r, result⟩] := by
  constructor
  · intro path
    obtain ⟨s, answer, rest, rfl, last⟩ := path_ask_iff.1 path
    obtain ⟨rfl, rfl⟩ := path_pure_iff.1 last
    exact ⟨s, rfl⟩
  · rintro ⟨s, rfl⟩
    exact .ask s (.done _)

/-- The kind of requests that a program makes. -/
theorem Only.path {p : Request → Bool} {x : Program α} {value : α} (only : Only p x)
    (path : Path x t value) : ∀ m ∈ t, p m.request = true := by
  induction path with
  | done value => simp
  | ask s rest ih =>
    cases only with
    | ask here only => exact List.forall_mem_cons.2 ⟨here, ih (only _)⟩

/-- A run is a path with moments that are linked. -/
theorem runs_iff {p : Program α} {value : α} :
    Runs p s t value after ↔ Path p t value ∧ Linked s t after := by
  constructor
  · intro run
    induction run with
    | done value s => exact ⟨.done value, .nil s⟩
    | ask answered rest ih => exact ⟨.ask _ ih.1, .cons answered ih.2⟩
  · rintro ⟨path, linked⟩
    induction path generalizing s with
    | done value =>
      cases linked
      exact .done _ _
    | ask s' rest ih =>
      cases linked with
      | cons answered rest' => exact .ask answered (ih rest')

end Program

namespace Service
variable {α β : Type} {t : List Moment}
open Program

theorem path_lift_iff {p : Program α} {result : Except DomainError α} :
    Path (ExceptT.lift p : Service α) t result ↔ ∃ value, result = .ok value ∧ Path p t value := by
  change Path (Except.ok <$> p) t result ↔ _
  rw [map_eq_pure_bind, path_bind_iff]
  constructor
  · rintro ⟨value, _, _, rfl, path, last⟩
    obtain ⟨rfl, rfl⟩ := Program.path_pure_iff.1 last
    exact ⟨value, rfl, by simpa using path⟩
  · rintro ⟨value, rfl, path⟩
    exact ⟨value, t, [], by simp, path, Program.path_pure_iff.2 ⟨rfl, rfl⟩⟩

/-- A service stops at the first error. -/
theorem path_bind_iff {p : Service α} {f : α → Service β} {result : Except DomainError β} :
    Path (p >>= f : Service β) t result ↔
      (∃ e, result = .error e ∧ Path p t (.error e)) ∨
      ∃ value first rest, t = first ++ rest ∧ Path p first (.ok value) ∧
        Path (f value) rest result := by
  change Path (Program.bind p (ExceptT.bindCont f)) t result ↔ _
  refine Program.path_bind_iff.trans ?_
  constructor
  · rintro ⟨value, first, rest, rfl, path, last⟩
    cases value with
    | error e =>
      obtain ⟨rfl, rfl⟩ := Program.path_pure_iff.1 last
      exact .inl ⟨e, rfl, by simpa using path⟩
    | ok value => exact .inr ⟨value, first, rest, rfl, path, last⟩
  · rintro (⟨e, rfl, path⟩ | ⟨value, first, rest, rfl, path, last⟩)
    · exact ⟨.error e, t, [], by simp, path, Program.path_pure_iff.2 ⟨rfl, rfl⟩⟩
    · exact ⟨.ok value, first, rest, rfl, path, last⟩

/-- A program that cannot fail, at the head of a service. -/
theorem path_lift_bind_iff {p : Program α} {f : α → Service β} {result : Except DomainError β} :
    Path (ExceptT.lift p >>= f : Service β) t result ↔
      ∃ value first rest, t = first ++ rest ∧ Path p first value ∧ Path (f value) rest result := by
  rw [path_bind_iff]
  constructor
  · rintro (⟨e, -, path⟩ | ⟨value, first, rest, rfl, path, last⟩)
    · obtain ⟨_, h, -⟩ := path_lift_iff.1 path
      cases h
    · obtain ⟨_, h, path⟩ := path_lift_iff.1 path
      cases h
      exact ⟨value, first, rest, rfl, path, last⟩
  · rintro ⟨value, first, rest, rfl, path, last⟩
    exact .inr ⟨value, first, rest, rfl, path_lift_iff.2 ⟨value, rfl, path⟩, last⟩

end Service

/-! ## Linked moments -/

namespace Linked
variable {s after : Store} {m : Moment} {t t' : List Moment} {a b : Attempt}

theorem nil_iff : Linked s [] after ↔ after = s := by
  constructor
  · intro linked
    cases linked
    rfl
  · rintro rfl
    exact .nil _

theorem cons_iff {shown : Store} {r : Request} {answer : r.Answer} :
    Linked s (⟨shown, r, answer⟩ :: t) after ↔
      shown = s ∧ ∃ middle, s.Answers r answer middle ∧ Linked middle t after := by
  constructor
  · intro linked
    cases linked with
    | cons answered rest => exact ⟨rfl, _, answered, rest⟩
  · rintro ⟨rfl, middle, answered, rest⟩
    exact .cons answered rest

theorem append_iff :
    Linked s (t ++ t') after ↔ ∃ middle, Linked s t middle ∧ Linked middle t' after := by
  induction t generalizing s with
  | nil => simp [nil_iff]
  | cons m t ih =>
    obtain ⟨shown, request, answer⟩ := m
    simp only [List.cons_append, cons_iff, ih]
    constructor
    · rintro ⟨same, next, answered, middle, first, rest⟩
      exact ⟨middle, ⟨same, next, answered, first⟩, rest⟩
    · rintro ⟨middle, ⟨same, next, answered, first⟩, rest⟩
      exact ⟨same, next, answered, middle, first, rest⟩

/-- Each answer is one that the tables allow. -/
theorem answers (linked : Linked s t after) :
    ∀ m ∈ t, ∃ middle, m.store.Answers m.request m.answer middle := by
  induction linked with
  | nil s => simp
  | cons answered rest ih => exact List.forall_mem_cons.2 ⟨⟨_, answered⟩, ih⟩

/-- A table stays as it is where no request writes to it. -/
theorem agree (linked : Linked s t after) (table : Table)
    (other : ∀ m ∈ t, m.request.table? ≠ some table) : s.Agree after table := by
  induction linked with
  | nil s => exact .refl s table
  | cons answered rest ih =>
    rw [List.forall_mem_cons] at other
    exact (Store.Answers.agree table answered other.1).trans (ih other.2)

/-- Reading leaves everything as it is. -/
theorem eq_of_reads (linked : Linked s t after) (reads : ∀ m ∈ t, m.request.table? = none) :
    after = s := by
  have same (table : Table) : s.Agree after table :=
    linked.agree table fun m mem => by simp [reads m mem]
  have events : after.events = s.events := same .events
  have attempts : after.attempts = s.attempts := same .attempts
  have calls : after.calls = s.calls := same .calls
  have resources : after.resources = s.resources := same .resources
  obtain ⟨_, _, _, _⟩ := after
  cases events
  cases attempts
  cases calls
  cases resources
  rfl

/-- Rows stay, and so does what they propose. -/
theorem exists_row (linked : Linked s t after) (mem : a ∈ s.attempts) :
    ∃ b ∈ after.attempts, b.proposal = a.proposal := by
  induction linked generalizing a with
  | nil s => exact ⟨a, mem, rfl⟩
  | @cons s middle after r answer t answered rest ih =>
    obtain ⟨b, here, same⟩ : ∃ b ∈ middle.attempts, b.proposal = a.proposal := by
      cases Moment.leads_of_answers answered with
      | kept rows leaves => exact ⟨a, rows ▸ mem, rfl⟩
      | added rows added unrecorded => exact ⟨a, rows ▸ List.mem_append_left _ mem, rfl⟩
      | @recorded id c wrote recorded =>
        obtain ⟨before, row, later, split, -, -, rows⟩ := Store.attempts_of_completeAttempt wrote
        have split : s.attempts = before ++ row :: later := split
        rw [split, List.mem_append, List.mem_cons] at mem
        rw [rows]
        rcases mem with mem | rfl | mem
        · exact ⟨a, List.mem_append_left _ mem, rfl⟩
        · exact ⟨a.complete c, by simp, rfl⟩
        · exact ⟨a, by simp [mem], rfl⟩
    obtain ⟨d, last, same'⟩ := ih here
    exact ⟨d, last, same'.trans same⟩

/-- A row that is added stays. -/
theorem exists_added (linked : Linked s t after) (mem : m ∈ t) (added : m.added? = some a) :
    ∃ b ∈ after.attempts, b.proposal = a.proposal := by
  obtain ⟨early, late, rfl⟩ := List.append_of_mem mem
  obtain ⟨shown, request, answer⟩ := m
  obtain ⟨_, -, rest⟩ := append_iff.1 linked
  obtain ⟨rfl, middle, answered, rest⟩ := cons_iff.1 rest
  refine rest.exists_row ?_
  cases Moment.leads_of_answers answered with
  | kept rows leaves => rw [leaves.2] at added; cases added
  | recorded wrote recorded =>
    rw [Moment.added?_eq_none_of_recorded recorded] at added
    cases added
  | added rows added' unrecorded =>
    obtain rfl := Option.some.inj (added.symm.trans added')
    rw [rows]
    exact List.mem_append_right _ (List.mem_singleton_self _)

/-- Where a row comes from: it was there and is the same unless it got an outcome, or it was added. -/
theorem origin (linked : Linked s t after) (mem : b ∈ after.attempts) :
    (∃ a ∈ s.attempts, b.proposal = a.proposal ∧
      (b = a ∨ ∃ m ∈ t, ∃ c, m.recorded? = some (a.id, c))) ∨
    ∃ m ∈ t, ∃ a, m.added? = some a ∧ b.proposal = a.proposal := by
  induction linked with
  | nil s => exact .inl ⟨b, mem, rfl, .inl rfl⟩
  | @cons s middle after r answer t answered rest ih =>
    rcases ih mem with ⟨a', here, same, kept⟩ | ⟨m, mem, a, added⟩
    · have later (kept' : b = a' ∨ ∃ m ∈ t, ∃ c, m.recorded? = some (a'.id, c)) :
          b = a' ∨ ∃ m ∈ ⟨s, r, answer⟩ :: t, ∃ c, m.recorded? = some (a'.id, c) :=
        kept'.imp_right fun ⟨m, mem, recorded⟩ => ⟨m, List.mem_cons_of_mem _ mem, recorded⟩
      cases Moment.leads_of_answers answered with
      | kept rows leaves =>
        have rows : middle.attempts = s.attempts := rows
        exact .inl ⟨a', rows ▸ here, same, later kept⟩
      | added rows added unrecorded =>
        rw [rows, List.mem_append, List.mem_singleton] at here
        rcases here with here | rfl
        · exact .inl ⟨a', here, same, later kept⟩
        · exact .inr ⟨_, List.mem_cons_self, a', added, same⟩
      | @recorded id c wrote recorded =>
        obtain ⟨before, row, later', split, -, own, rows⟩ :=
          Store.attempts_of_completeAttempt wrote
        have split : s.attempts = before ++ row :: later' := split
        rw [rows, List.mem_append, List.mem_cons] at here
        have old : a' ∈ before ∨ a' ∈ later' → a' ∈ s.attempts := by
          rw [split]
          rintro (here | here) <;> simp [here]
        rcases here with here | rfl | here
        · exact .inl ⟨a', old (.inl here), same, later kept⟩
        · refine .inl ⟨row, by simp [split], same, .inr ⟨_, List.mem_cons_self, c, ?_⟩⟩
          rw [recorded, own]
        · exact .inl ⟨a', old (.inr here), same, later kept⟩
    · exact .inr ⟨m, List.mem_cons_of_mem _ mem, a, added⟩

end Linked

/-! ## Interleaved runs -/

/-- Two programs run at the same time: the next request is that of either one. -/
inductive Program.Interleaved {α β : Type} :
    Program α → Program β → Store → List (Moment ⊕ Moment) → α → β → Store → Prop where
  | done (x : α) (y : β) (s : Store) : Interleaved (.done x) (.done y) s [] x y s
  | first {r : Request} {next : r.Answer → Program α} {q : Program β} {s middle after : Store}
      {answer : r.Answer} {t : List (Moment ⊕ Moment)} {x : α} {y : β}
      (answered : s.Answers r answer middle)
      (rest : Interleaved (next answer) q middle t x y after) :
      Interleaved (.ask r next) q s (.inl ⟨s, r, answer⟩ :: t) x y after
  | second {p : Program α} {r : Request} {next : r.Answer → Program β} {s middle after : Store}
      {answer : r.Answer} {t : List (Moment ⊕ Moment)} {x : α} {y : β}
      (answered : s.Answers r answer middle)
      (rest : Interleaved p (next answer) middle t x y after) :
      Interleaved p (.ask r next) s (.inr ⟨s, r, answer⟩ :: t) x y after

/-- The moments of the first program. -/
def firsts (t : List (Moment ⊕ Moment)) : List Moment :=
  t.filterMap Sum.getLeft?

/-- The moments of the second program. -/
def seconds (t : List (Moment ⊕ Moment)) : List Moment :=
  t.filterMap Sum.getRight?

/-- The moments of both programs, in order. -/
def merged (t : List (Moment ⊕ Moment)) : List Moment :=
  t.map (Sum.elim id id)

theorem mem_merged {m : Moment} {t : List (Moment ⊕ Moment)} :
    m ∈ merged t ↔ m ∈ firsts t ∨ m ∈ seconds t := by
  simp [merged, firsts, seconds, Sum.exists]

theorem Program.interleaved_iff {α β : Type} {p : Program α} {q : Program β} {s after : Store}
    {t : List (Moment ⊕ Moment)} {x : α} {y : β} :
    Interleaved p q s t x y after ↔
      Path p (firsts t) x ∧ Path q (seconds t) y ∧ Linked s (merged t) after := by
  constructor
  · intro run
    induction run with
    | done x y s => exact ⟨.done x, .done y, .nil s⟩
    | first answered rest ih => exact ⟨.ask _ ih.1, ih.2.1, .cons answered ih.2.2⟩
    | second answered rest ih => exact ⟨ih.1, .ask _ ih.2.1, .cons answered ih.2.2⟩
  · rintro ⟨path, path', linked⟩
    induction t generalizing p q s with
    | nil =>
      cases path
      cases path'
      cases linked
      exact .done x y _
    | cons tagged t ih =>
      cases tagged with
      | inl m =>
        cases path with
        | ask _ path =>
          cases linked with
          | cons answered linked => exact .first answered (ih path path' linked)
      | inr m =>
        cases path' with
        | ask _ path' =>
          cases linked with
          | cons answered linked => exact .second answered (ih path path' linked)

/-- What comes before the first request of the first program. -/
theorem exists_of_firsts_eq_cons {t : List (Moment ⊕ Moment)} {m : Moment} {rest : List Moment}
    (h : firsts t = m :: rest) :
    ∃ early late, merged t = early ++ m :: late ∧ (∀ m ∈ early, m ∈ seconds t) := by
  obtain ⟨early, tagged, late, rfl, none, here, -⟩ := List.filterMap_eq_cons_iff.1 h
  obtain rfl := Sum.getLeft?_eq_some_iff.1 here
  refine ⟨merged early, merged late, by simp [merged], fun m' mem => ?_⟩
  rcases mem_merged.1 mem with mem | mem
  · obtain ⟨tagged, listed, left⟩ := List.mem_filterMap.1 mem
    rw [none tagged listed] at left
    cases left
  · rw [seconds, List.filterMap_append]
    exact List.mem_append_left _ mem

/-- What comes before the first request of the second program. -/
theorem exists_of_seconds_eq_cons {t : List (Moment ⊕ Moment)} {m : Moment} {rest : List Moment}
    (h : seconds t = m :: rest) :
    ∃ early late, merged t = early ++ m :: late ∧ (∀ m ∈ early, m ∈ firsts t) := by
  obtain ⟨early, tagged, late, rfl, none, here, -⟩ := List.filterMap_eq_cons_iff.1 h
  obtain rfl := Sum.getRight?_eq_some_iff.1 here
  refine ⟨merged early, merged late, by simp [merged], fun m' mem => ?_⟩
  rcases mem_merged.1 mem with mem | mem
  · rw [firsts, List.filterMap_append]
    exact List.mem_append_left _ mem
  · obtain ⟨tagged, listed, right⟩ := List.mem_filterMap.1 mem
    rw [none tagged listed] at right
    cases right

/-! ## Interleaved runs in the world -/

namespace Simulation.World
variable {α β : Type}

/-- Two programs in the world. The next request is that of the first program where it is its turn,
and of the second one otherwise; a program that is done misses its turns. -/
def weave : List Bool → Program α → Program β → World →
    World × List (Moment ⊕ Moment) × Option (α × β)
  | [], .done x, .done y, w => (w, [], some (x, y))
  | [], _, _, w => (w, [], none)
  | true :: turns, .done x, q, w => weave turns (.done x) q w
  | false :: turns, p, .done y, w => weave turns p (.done y) w
  | true :: turns, .ask r next, q, w =>
    match w.begin r with
    | (middle, .answered answer) =>
      let (after, t, result) := weave turns (next answer) q middle
      (after, .inl ⟨w.store, r, answer⟩ :: t, result)
    | (_, .waiting _ _) | (_, .crashed) => (w, [], none)
  | false :: turns, p, .ask r next, w =>
    match w.begin r with
    | (middle, .answered answer) =>
      let (after, t, result) := weave turns p (next answer) middle
      (after, .inr ⟨w.store, r, answer⟩ :: t, result)
    | (_, .waiting _ _) | (_, .crashed) => (w, [], none)

/-- Two programs that are done in the world have an interleaved run. -/
theorem interleaved_of_weave (turns : List Bool) (p : Program α) (q : Program β) (w : World)
    (tight : w.leaky = false) {x : α} {y : β} (done : (w.weave turns p q).2.2 = some (x, y)) :
    Program.Interleaved p q w.store (w.weave turns p q).2.1 x y (w.weave turns p q).1.store := by
  induction turns generalizing p q w with
  | nil =>
    cases p with
    | done x' =>
      cases q with
      | done y' =>
        obtain ⟨rfl, rfl⟩ := Prod.mk.inj (Option.some.inj done)
        exact .done _ _ _
      | ask r next => cases done
    | ask r next => cases q <;> cases done
  | cons turn turns ih =>
    cases turn with
    | true =>
      cases p with
      | done x' => simpa [weave] using ih (.done x') q w tight (by simpa [weave] using done)
      | ask r next =>
        unfold weave at done ⊢
        cases begun : w.begin r with
        | mk middle reaction =>
          rw [begun] at done
          cases reaction with
          | answered answer =>
            obtain ⟨answers, tight'⟩ := answers_of_begin tight begun
            exact .first answers (ih (next answer) q middle tight' done)
          | waiting due wait => cases done
          | crashed => cases done
    | false =>
      cases q with
      | done y' => simpa [weave] using ih p (.done y') w tight (by simpa [weave] using done)
      | ask r next =>
        unfold weave at done ⊢
        cases begun : w.begin r with
        | mk middle reaction =>
          rw [begun] at done
          cases reaction with
          | answered answer =>
            obtain ⟨answers, tight'⟩ := answers_of_begin tight begun
            exact .second answers (ih p (next answer) middle tight' done)
          | waiting due wait => cases done
          | crashed => cases done

end Simulation.World

end CalendarSync
