import CalendarSync.Proofs.CatchingUp
import CalendarSync.Proofs.Erasing
import CalendarSync.Proofs.Gathering
import Mathlib.Logic.ExistsUnique
import Mathlib.Logic.Relation

/-!
# Only the latest attempt counts

The latest attempt of a history is the one that all others come before. It stays the latest when the
history is reordered and when other attempts are inserted, removed, answered or altered, as long as
they come before it. The status of an event and the operation that is proposed for it depend on no
other attempt, so that neither the order nor the length of a history matters.
-/

namespace CalendarSync
set_option autoImplicit false
open Program Simulation

/-! ## The latest attempt -/

namespace Attempt
variable {a b : Attempt} {l l' : List Attempt}

/-- All other attempts of a history come before this one. -/
structure IsLatest (a : Attempt) (l : List Attempt) : Prop where
  mem : a ∈ l
  before : ∀ b ∈ l, b ≠ a → b.Before a

theorem Before.not_notAfter (before : a.Before b) : ¬ b.NotAfter a := by
  intro le
  have same := before.notAfter.id_eq le
  refine before.asymm (le.imp_right fun ⟨created, _⟩ => ⟨created, ?_⟩)
  rcases before with lt | ⟨-, lt⟩
  · rw [Timestamp.lt_def, created] at lt
    omega
  · rwa [same] at lt ⊢

theorem IsLatest.latest?_eq (latest : a.IsLatest l) : latest? l = some a := by
  cases found : latest? l with
  | none =>
    have mem := latest.mem
    rw [(latest?_eq_none_iff l).1 found] at mem
    cases mem
  | some b =>
    by_cases same : b = a
    · rw [same]
    · have before := latest.before b (latest?_mem found) same
      exact absurd (notAfter_latest? found a latest.mem) before.not_notAfter

theorem latest?_eq_some_iff_isLatest (distinct : (l.map (·.id)).Nodup) :
    latest? l = some a ↔ a.IsLatest l := by
  refine ⟨fun found => ?_, IsLatest.latest?_eq⟩
  have mem : a ∈ l := latest?_mem found
  refine ⟨mem, fun b here other => (notAfter_latest? found b here).before fun same => other ?_⟩
  exact eq_of_id_eq distinct here mem same

theorem IsLatest.eq (latest : a.IsLatest l) (latest' : b.IsLatest l) : a = b :=
  Option.some.inj (latest.latest?_eq.symm.trans latest'.latest?_eq)

theorem exists_isLatest (distinct : (l.map (·.id)).Nodup) (some : l ≠ []) :
    ∃ a : Attempt, a.IsLatest l := by
  obtain ⟨a, found⟩ := Option.ne_none_iff_exists'.1 (mt (latest?_eq_none_iff l).1 some)
  exact ⟨a, (latest?_eq_some_iff_isLatest distinct).1 found⟩

theorem IsLatest.of_perm (latest : a.IsLatest l) (perm : l.Perm l') : a.IsLatest l' :=
  ⟨perm.subset latest.mem, fun b mem => latest.before b (perm.symm.subset mem)⟩

theorem latest?_perm (distinct : (l.map (·.id)).Nodup) (perm : l'.Perm l) :
    latest? l' = latest? l := by
  by_cases empty : l = []
  · subst empty
    rw [perm.eq_nil]
  · obtain ⟨a, latest⟩ := exists_isLatest distinct empty
    rw [latest.latest?_eq, (latest.of_perm perm.symm).latest?_eq]

/-! ## Changes to the other attempts -/

/-- One change to a history that leaves the attempt `a` alone and puts nothing after it. -/
inductive Edit (a : Attempt) : List Attempt → List Attempt → Prop where
  | reorder {l l' : List Attempt} (perm : l.Perm l') : Edit a l l'
  | insert (l l' : List Attempt) {b : Attempt} (before : b.Before a) :
      Edit a (l ++ l') (l ++ b :: l')
  | remove (l l' : List Attempt) {b : Attempt} (other : b ≠ a) : Edit a (l ++ b :: l') (l ++ l')
  | complete (l l' : List Attempt) {b : Attempt} (c : Completion) (other : b ≠ a) :
      Edit a (l ++ b :: l') (l ++ b.complete c :: l')
  | alter (l l' : List Attempt) {b b' : Attempt} (other : b ≠ a) (before : b'.Before a) :
      Edit a (l ++ b :: l') (l ++ b' :: l')

/-- Any number of such changes. -/
def Edited (a : Attempt) : List Attempt → List Attempt → Prop :=
  Relation.ReflTransGen (Edit a)

theorem isLatest_insert (latest : a.IsLatest (l ++ l')) (before : b.Before a) :
    a.IsLatest (l ++ b :: l') := by
  have perm : (l ++ b :: l').Perm (b :: (l ++ l')) := List.perm_middle
  refine IsLatest.of_perm ⟨List.mem_cons_of_mem b latest.mem, ?_⟩ perm.symm
  exact List.forall_mem_cons.2 ⟨fun _ => before, latest.before⟩

theorem isLatest_remove (latest : a.IsLatest (l ++ b :: l')) (other : b ≠ a) :
    a.IsLatest (l ++ l') := by
  have latest' : a.IsLatest (b :: (l ++ l')) := latest.of_perm List.perm_middle
  refine ⟨?_, fun b' mem => latest'.before b' (List.mem_cons_of_mem b mem)⟩
  exact (List.mem_cons.1 latest'.mem).resolve_left (Ne.symm other)

/-- A change to the others leaves the latest attempt the latest. -/
theorem IsLatest.edit (latest : a.IsLatest l) (edit : Edit a l l') : a.IsLatest l' := by
  cases edit with
  | reorder perm => exact latest.of_perm perm
  | insert l l' before => exact isLatest_insert latest before
  | remove l l' other => exact isLatest_remove latest other
  | @complete l l' b c other =>
    -- An outcome leaves the attempt where it is in the order.
    have before : (b.complete c).Before a :=
      latest.before b (List.mem_append_right l List.mem_cons_self) other
    exact isLatest_insert (isLatest_remove latest other) before
  | alter l l' other before => exact isLatest_insert (isLatest_remove latest other) before

theorem IsLatest.edited (latest : a.IsLatest l) (edited : Edited a l l') : a.IsLatest l' := by
  induction edited with
  | refl => exact latest
  | tail _ edit ih => exact ih.edit edit

end Attempt

/-! ## What is proposed -/

namespace Queue
variable {id : Uuid} {e e' : Event} {t : List Moment} {seen : Window} {op? : Option Operation}

/-- The event has been read with its history, in whatever order the storage lists it. -/
def Reads (id : Uuid) (e : Event) (t : List Moment) : Prop :=
  ∃ s s' row rest, { row with attempts := e.attempts } = e ∧
    t = ⟨s, .getEvent id, .ok (some row)⟩ :: ⟨s', .attemptsOf id, .ok e.attempts⟩ :: rest

theorem Reads.eq (reads : Reads id e t) (reads' : Reads id e' t) : e = e' := by
  obtain ⟨s, s', row, rest, same, rfl⟩ := reads
  obtain ⟨_, _, row', _, same', trace⟩ := reads'
  simp only [List.cons.injEq, Moment.mk.injEq, heq_eq_eq, Except.ok.injEq, Option.some.injEq,
    true_and] at trace
  obtain ⟨⟨-, rfl⟩, ⟨-, history⟩, -⟩ := trace
  rw [← same, ← same', history]

/-- Whoever succeeds in proposing an attempt has read the event, and the operation is the one that
its status calls for. -/
theorem path_proposeIfStale {proposal? : Option Attempt}
    (path : Path (proposeIfStale id seen) t (.ok proposal?)) :
    ∃ e, Reads id e t ∧ proposal?.map (·.operation) = (e.status seen).nextOperation? := by
  unfold proposeIfStale at path
  obtain ⟨_, failed, -⟩ | ⟨event, first, rest, rfl, loaded, path₁⟩ := Service.path_bind_iff.1 path
  · cases failed
  cases path_load loaded with
  | loaded s s' row history =>
    refine ⟨{ row with attempts := history }, ⟨s, s', row, rest, rfl, rfl⟩, ?_⟩
    cases stale : (({ row with attempts := history } : Event).status seen).nextOperation? with
    | none =>
      rw [stale] at path₁
      obtain ⟨-, same⟩ := Program.path_pure_iff.1 path₁
      rw [Except.ok.inj same, Option.map_none]
    | some op =>
      rw [stale] at path₁
      obtain ⟨_, createdAt, _, fresh, _, answer, -, result⟩ := path_add path₁
      cases answer with
      | error e => cases result
      | ok u =>
        rw [Except.ok.inj result]
        rfl

/-- An event can be read, and then an attempt can be proposed for it if its status calls for one. -/
theorem exists_path_proposeIfStale (id : Uuid) (e : Event) (seen : Window) :
    ∃ t proposal?, Path (proposeIfStale id seen) t (.ok proposal?) ∧ Reads id e t := by
  let s : Store := ⟨[], [], [], []⟩
  have loaded : Path (load id)
      [⟨s, .getEvent id, .ok (some e)⟩, ⟨s, .attemptsOf id, .ok e.attempts⟩] (.ok e) :=
    .ask s (.ask s (.done _))
  have reads (rest : List Moment) : Reads id e
      ([⟨s, .getEvent id, .ok (some e)⟩, ⟨s, .attemptsOf id, .ok e.attempts⟩] ++ rest) :=
    ⟨s, s, e, rest, rfl, rfl⟩
  cases stale : (e.status seen).nextOperation? with
  | none =>
    refine ⟨_, none, Service.path_bind_iff.2 (.inr ⟨e, _, [], rfl, loaded, ?_⟩), reads []⟩
    rw [stale]
    exact Program.path_pure_iff.2 ⟨rfl, rfl⟩
  | some op =>
    let proposal := Attempt.pending id e.id op seen e.createdAt
    refine ⟨_, some proposal, Service.path_bind_iff.2 (.inr ⟨e, _, [⟨s, .now, e.createdAt⟩,
      ⟨s, .freshId, id⟩, ⟨s, .insertAttempt proposal, .ok ()⟩], rfl, loaded, ?_⟩), reads _⟩
    rw [stale]
    exact .ask s (.ask s (.ask s (.done _)))

/-- Whoever succeeds in proposing an attempt for an event that is read as `e` proposes one of this
operation, or none. -/
structure Chooses (e : Event) (seen : Window) (op? : Option Operation) : Prop where
  possible : ∀ id, ∃ t proposal?, Path (proposeIfStale id seen) t (.ok proposal?) ∧ Reads id e t
  sole : ∀ id t proposal?, Path (proposeIfStale id seen) t (.ok proposal?) → Reads id e t →
    proposal?.map (·.operation) = op?

theorem chooses_iff : Chooses e seen op? ↔ (e.status seen).nextOperation? = op? := by
  constructor
  · rintro ⟨possible, sole⟩
    obtain ⟨t, proposal?, path, reads⟩ := possible (.ofNat 0)
    obtain ⟨e', reads', chosen⟩ := path_proposeIfStale path
    obtain rfl := reads.eq reads'
    exact chosen.symm.trans (sole _ t proposal? path reads)
  · rintro rfl
    refine ⟨fun id => exists_path_proposeIfStale id e seen, fun id t proposal? path reads => ?_⟩
    obtain ⟨e', reads', chosen⟩ := path_proposeIfStale path
    obtain rfl := reads.eq reads'
    exact chosen

end Queue

/-! ## Status -/

namespace Event
variable {e e' : Event} {latest : Attempt} {seen : Window}

/-- Neither the status nor what is proposed tells two events apart. -/
structure Alike (e e' : Event) : Prop where
  status : ∀ seen, e'.status seen = e.status seen
  chosen : ∀ seen op?, Queue.Chooses e' seen op? ↔ Queue.Chooses e seen op?

theorem Alike.of_status (status : ∀ seen, e'.status seen = e.status seen) : e.Alike e' :=
  ⟨status, fun seen op? => by rw [Queue.chooses_iff, Queue.chooses_iff, status]⟩

/-- Of the history, the status looks at the latest attempt only. -/
theorem Alike.of_latest? {l : List Attempt}
    (same : Attempt.latest? l = Attempt.latest? e.attempts) : e.Alike { e with attempts := l } :=
  .of_status fun seen => by simp only [Event.status, same]

/-- An event that stands is up to date against the window of its latest attempt, once that has been
answered, and against no other. -/
theorem status_eq_upToDate_iff (stands : e.isDeleted = false)
    (last : Attempt.latest? e.attempts = some latest) :
    e.status seen = .upToDate ↔ latest.isPending = false ∧ latest.window = seen := by
  rw [Event.status_eq stands last]
  cases latest.isPending <;> by_cases same : latest.window = seen <;> simp [same]

theorem existsUnique_upToDate_iff (stands : e.isDeleted = false)
    (last : Attempt.latest? e.attempts = some latest) :
    (∃! seen : Window, e.status seen = .upToDate) ↔ latest.isPending = false := by
  simp only [status_eq_upToDate_iff stands last]
  constructor
  · rintro ⟨seen, ⟨closed, -⟩, -⟩
    exact closed
  · intro closed
    exact ⟨latest.window, ⟨closed, rfl⟩, fun seen ⟨_, same⟩ => same.symm⟩

/-- The latest attempt of a history whose attempts have identifiers of their own is the one that all
others come before. Reordering the history or changing the other attempts leaves it the latest, and
leaves the status of the event and what is proposed for it as they are. An event that stands and has
attempts is up to date against one window at most, and against one exactly if its latest attempt has
been answered. -/
theorem status_by_latest (e : Event) (distinct : (e.attempts.map (·.id)).Nodup) :
    (∀ a : Attempt, Attempt.latest? e.attempts = some a ↔ a.IsLatest e.attempts) ∧
    (e.attempts ≠ [] → ∃! a : Attempt, a.IsLatest e.attempts) ∧
    (∀ l, l.Perm e.attempts → e.Alike { e with attempts := l }) ∧
    (∀ (a : Attempt) (l : List Attempt), a.IsLatest e.attempts →
      Attempt.Edited a e.attempts l →
      Attempt.latest? l = some a ∧ e.Alike { e with attempts := l }) ∧
    (e.isDeleted = false → ∀ a : Attempt, a.IsLatest e.attempts →
      (∀ seen seen', e.status seen = .upToDate → e.status seen' = .upToDate → seen = seen') ∧
      ((∃! seen : Window, e.status seen = .upToDate) ↔ a.isPending = false)) := by
  refine ⟨fun a => Attempt.latest?_eq_some_iff_isLatest distinct, fun some => ?_,
    fun l perm => ?_, fun a l latest edited => ?_, fun stands a latest => ⟨?_, ?_⟩⟩
  · obtain ⟨a, latest⟩ := Attempt.exists_isLatest distinct some
    exact ⟨a, latest, fun b latest' => latest'.eq latest⟩
  · exact .of_latest? (Attempt.latest?_perm distinct perm)
  · have kept := (latest.edited edited).latest?_eq
    exact ⟨kept, .of_latest? (kept.trans latest.latest?_eq.symm)⟩
  · intro seen seen' current current'
    obtain ⟨-, same⟩ := (status_eq_upToDate_iff stands latest.latest?_eq).1 current
    obtain ⟨-, same'⟩ := (status_eq_upToDate_iff stands latest.latest?_eq).1 current'
    exact same.symm.trans same'
  · exact existsUnique_upToDate_iff stands latest.latest?_eq

/-- An update that was answered, of two that were created at the same instant. -/
def answeredUpdate : Attempt :=
  let created := World.atSecond 1000
  (Attempt.pending (.ofNat 12) (.ofNat 1) .update ⟨created, created⟩ created).complete
    (.succeeded (World.atSecond 1500) none)

/-- The other one, which waits. -/
def tiedUpdate : Attempt :=
  let created := World.atSecond 1000
  .pending (.ofNat 11) (.ofNat 1) .update ⟨created, World.atSecond 2000⟩ created

/-- An event whose history lists the later of the two first. -/
def rescheduled : Event :=
  ⟨.ofNat 1, "rooms", "item", false, World.atSecond 0, [answeredUpdate, tiedUpdate]⟩

/-- The other update is answered, listed first and joined by an older attempt. -/
theorem status_by_latest_rescheduled :
    let older : Attempt := { tiedUpdate with id := .ofNat 13, createdAt := World.atSecond 999 }
    let history := [tiedUpdate.complete (.withdrawn (World.atSecond 1600)), older, answeredUpdate]
    (rescheduled.attempts.map (·.id)).Nodup ∧ answeredUpdate.IsLatest rescheduled.attempts ∧
    Attempt.Edited answeredUpdate rescheduled.attempts history ∧
    Attempt.latest? history = some answeredUpdate ∧
    rescheduled.Alike { rescheduled with attempts := history } ∧
    [tiedUpdate, answeredUpdate].Perm rescheduled.attempts ∧
    rescheduled.Alike { rescheduled with attempts := [tiedUpdate, answeredUpdate] } ∧
    rescheduled.isDeleted = false ∧ answeredUpdate.isPending = false ∧
    ∃! seen : Window, rescheduled.status seen = .upToDate := by
  intro older history
  have distinct : (rescheduled.attempts.map (·.id)).Nodup := by decide
  obtain ⟨found, -, reordered, revised, stands⟩ := status_by_latest rescheduled distinct
  have latest : answeredUpdate.IsLatest rescheduled.attempts := (found answeredUpdate).1 (by decide)
  have swap : [tiedUpdate, answeredUpdate].Perm rescheduled.attempts := .swap _ _ _
  have before : older.Before answeredUpdate := .inl (by decide)
  have edited : Attempt.Edited answeredUpdate rescheduled.attempts history :=
    .trans (.single (.complete [answeredUpdate] [] (.withdrawn (World.atSecond 1600)) (by decide)))
      (.trans (.single (.reorder (.swap _ _ _))) (.single (.insert [_] [_] before)))
  obtain ⟨kept, alike⟩ := revised answeredUpdate history latest edited
  exact ⟨distinct, latest, edited, kept, alike, swap, reordered _ swap, rfl, rfl,
    (stands rfl answeredUpdate latest).2.2 rfl⟩

end Event
end CalendarSync
