import CalendarSync.Proofs.Batch
import CalendarSync.Proofs.World
import Mathlib.Data.List.Sort

/-!
# Batches are determined by their queues

A batch can be gathered in one pass over a queue, in which a table holds the update kept for each
event. A queue whose attempts have identifiers of their own admits one division only, so neither
its order nor that in which the table is gone through counts.
-/

namespace CalendarSync
set_option autoImplicit false

/-! ## The strict order by recency -/

namespace Attempt
variable {a b : Attempt} {l l' : List Attempt}

/-- The first attempt is less recent than the second. -/
def Before (a b : Attempt) : Prop :=
  a.createdAt < b.createdAt ∨ (a.createdAt = b.createdAt ∧ a.id < b.id)

theorem Before.notAfter (h : a.Before b) : a.NotAfter b :=
  h.imp_right fun ⟨same, lt⟩ => ⟨same, Nat.le_of_lt lt⟩

theorem NotAfter.before (h : a.NotAfter b) (other : a.id ≠ b.id) : a.Before b := by
  refine h.imp_right fun ⟨same, le⟩ => ⟨same, Nat.lt_of_le_of_ne le fun numbers => other ?_⟩
  exact Uuid.le_antisymm le (Nat.le_of_eq numbers.symm)

theorem Before.irrefl (a : Attempt) : ¬ a.Before a := by
  rintro (lt | ⟨-, lt⟩)
  · rw [Timestamp.lt_def] at lt
    omega
  · exact Nat.lt_irrefl _ lt

theorem Before.asymm (h : a.Before b) : ¬ b.Before a := by
  intro h'
  have same := h.notAfter.id_eq h'.notAfter
  rcases h with lt | ⟨-, lt⟩
  · rcases h' with lt' | ⟨-, lt'⟩
    · simp only [Timestamp.lt_def] at lt lt'
      omega
    · rw [same] at lt'
      exact Nat.lt_irrefl _ lt'
  · rw [same] at lt
    exact Nat.lt_irrefl _ lt

instance : Std.Irrefl Before := ⟨Before.irrefl⟩

instance : Std.Asymm Before := ⟨fun _ _ => Before.asymm⟩

/-- Attempts with identifiers of their own that are sorted are strictly so. -/
theorem pairwise_before (distinct : (l.map (·.id)).Nodup) (sorted : l.Pairwise NotAfter) :
    l.Pairwise Before := by
  rw [List.Nodup, List.pairwise_map] at distinct
  exact (sorted.and distinct).imp fun ⟨le, other⟩ => le.before other

theorem pairwise_before_oldestFirst (distinct : (l.map (·.id)).Nodup) :
    (oldestFirst l).Pairwise Before :=
  pairwise_before (((oldestFirst_perm l).map _).nodup_iff.2 distinct) (pairwise_oldestFirst l)

end Attempt

namespace Uuid

instance : Std.Irrefl (α := Uuid) (· < ·) := ⟨fun a => Nat.lt_irrefl a.number⟩

instance : Std.Asymm (α := Uuid) (· < ·) := ⟨fun _ _ => Nat.lt_asymm⟩

/-- Different identifiers that are sorted are strictly so. -/
theorem pairwise_lt_mergeSort {ids : List Uuid} (nodup : ids.Nodup) :
    (ids.mergeSort fun a b => decide (a ≤ b)).Pairwise (· < ·) := by
  refine (pairwise_ne_mergeSort ?trans ?total nodup).imp fun {a b} ⟨le, other⟩ => ?strict
  case trans =>
    exact fun a b c h h' =>
      decide_eq_true (Nat.le_trans (of_decide_eq_true h) (of_decide_eq_true h'))
  case total =>
    intro a b
    simp only [Bool.or_eq_true, decide_eq_true_eq]
    exact Nat.le_total a.number b.number
  case strict =>
    have le : a ≤ b := of_decide_eq_true le
    exact Nat.lt_of_le_of_ne le fun same => other (le_antisymm le (Nat.le_of_eq same.symm))

end Uuid

/-! ## What is kept and what is replaced -/

namespace Selection
variable {seen seen' : List Attempt} {s : Selection} {a : Attempt}

/-- Neither the order of what has been seen nor that of the table counts. -/
theorem Of.of_perm (known : Of seen s) (perm : seen.Perm seen') {kept : List Attempt}
    (again : kept.Perm s.kept) : Of seen' { s with kept := kept } := by
  refine ⟨?_, ?_, ?_, ?_⟩
  · exact ((again.map _).append_right _).trans (known.perm.trans (perm.map _))
  · exact fun k mem => perm.subset (known.mem k (again.subset mem))
  · exact (again.map _).nodup_iff.2 known.one
  · intro a mem
    obtain ⟨k, kept, event, le⟩ := known.greatest a (perm.symm.subset mem)
    exact ⟨k, again.symm.subset kept, event, le⟩

/-- What is kept is the latest update of its event. -/
theorem Of.mem_kept_iff (known : Of seen s) (distinct : (seen.map (·.id)).Nodup) :
    a ∈ s.kept ↔ Attempt.latest? (seen.filter fun b => b.event = a.event) = some a := by
  rw [Attempt.latest?_eq_some_iff (Attempt.nodup_filter distinct _)]
  simp only [List.mem_filter, decide_eq_true_eq, and_true, and_imp]
  constructor
  · intro kept
    refine ⟨known.mem a kept, fun b mem event => ?_⟩
    obtain ⟨k, kept', event', le⟩ := known.greatest b mem
    rwa [List.inj_on_of_nodup_map known.one kept' kept (event'.trans event)] at le
  · rintro ⟨mem, greatest⟩
    obtain ⟨k, kept, event, le⟩ := known.greatest a mem
    have same := le.id_eq (greatest k (known.mem k kept) event)
    rwa [Attempt.eq_of_id_eq distinct mem (known.mem k kept) same]

/-- All other updates are replaced. -/
theorem Of.mem_replaced_iff (known : Of seen s) (distinct : (seen.map (·.id)).Nodup) {id : Uuid} :
    id ∈ s.replaced ↔ ∃ a ∈ seen, a.id = id ∧ a ∉ s.kept := by
  have apart := (List.nodup_append.1 (known.perm.nodup_iff.2 distinct)).2.2
  constructor
  · intro replaced
    obtain ⟨a, mem, same⟩ := List.mem_map.1 (known.perm.subset (List.mem_append_right _ replaced))
    exact ⟨a, mem, same, fun kept => apart _ (List.mem_map_of_mem kept) _ replaced same⟩
  · rintro ⟨a, mem, rfl, out⟩
    rcases List.mem_append.1 (known.perm.symm.subset (List.mem_map_of_mem mem)) with h | h
    · obtain ⟨b, kept, same⟩ := List.mem_map.1 h
      rw [Attempt.eq_of_id_eq distinct (known.mem b kept) mem same] at kept
      exact absurd kept out
    · exact h

theorem Of.nodup_kept (known : Of seen s) (distinct : (seen.map (·.id)).Nodup) :
    (s.kept.map (·.id)).Nodup :=
  (known.perm.nodup_iff.2 distinct).of_append_left

theorem Of.nodup_replaced (known : Of seen s) (distinct : (seen.map (·.id)).Nodup) :
    s.replaced.Nodup :=
  (known.perm.nodup_iff.2 distinct).of_append_right

end Selection
/-! ## One pass over a queue -/

namespace Batch

/-- What a pass has gathered: creates and deletes in the order of the queue, and the updates. -/
structure Gathering where
  creates : List Attempt
  deletes : List Attempt
  updates : Selection

namespace Gathering

/-- Takes one attempt of the queue; one that has been answered does not count. -/
def take (g : Gathering) (a : Attempt) : Gathering :=
  if a.isPending then
    match a.operation with
    | .create => { g with creates := g.creates ++ [a] }
    | .update => { g with updates := g.updates.offer a }
    | .delete => { g with deletes := g.deletes ++ [a] }
  else g

/-- The batch that is made of what has been gathered. -/
def batch (g : Gathering) (maxCreates : Nat) : Batch :=
  { creates := (Attempt.oldestFirst g.creates).take maxCreates
    updates := Attempt.oldestFirst g.updates.kept
    deletes := Attempt.oldestFirst g.deletes
    superseded := g.updates.replaced.mergeSort fun a b => decide (a ≤ b) }

end Gathering

/-- What a pass over a queue can gather, where the table of the updates that are kept may come to
stand in another order at any time. -/
inductive Gathers : List Attempt → Gathering → Prop where
  | start : Gathers [] ⟨[], [], .empty⟩
  | take {seen : List Attempt} {g : Gathering} (past : Gathers seen g) (a : Attempt) :
      Gathers (seen ++ [a]) (g.take a)
  | reorder {seen : List Attempt} {g : Gathering} (past : Gathers seen g) {kept : List Attempt}
      (again : kept.Perm g.updates.kept) :
      Gathers seen { g with updates := { g.updates with kept := kept } }

/-- What is known of all that has been gathered from a queue, in whatever order. -/
structure Gathering.Of (queue : List Attempt) (g : Gathering) : Prop where
  creates : g.creates.Perm (waiting queue .create)
  deletes : g.deletes.Perm (waiting queue .delete)
  updates : Selection.Of (waiting queue .update) g.updates

section Gathering
variable {queue queue' seen : List Attempt} {g : Gathering} {a : Attempt} {op : Operation}

theorem waiting_append_of_eq (pending : a.isPending = true) (same : a.operation = op) :
    waiting (seen ++ [a]) op = waiting seen op ++ [a] := by
  simp [waiting, pending, same]

theorem waiting_append_of_ne (other : ¬ (a.isPending = true ∧ a.operation = op)) :
    waiting (seen ++ [a]) op = waiting seen op := by
  simpa [waiting] using other

/-- One more attempt of the queue. -/
theorem Gathering.Of.take (known : g.Of seen) (a : Attempt) : (g.take a).Of (seen ++ [a]) := by
  obtain ⟨creates, deletes, updates⟩ := known
  unfold Gathering.take
  split
  · rename_i pending
    have others (op : Operation) (other : a.operation ≠ op) :
        waiting (seen ++ [a]) op = waiting seen op :=
      waiting_append_of_ne fun both => other both.2
    split
    · rename_i same
      refine ⟨?_, ?_, ?_⟩
      · rw [waiting_append_of_eq pending same]; exact creates.append_right [a]
      · rw [others .delete (by simp [same])]; exact deletes
      · rw [others .update (by simp [same])]; exact updates
    · rename_i same
      refine ⟨?_, ?_, ?_⟩
      · rw [others .create (by simp [same])]; exact creates
      · rw [others .delete (by simp [same])]; exact deletes
      · rw [waiting_append_of_eq pending same]; exact updates.offer a
    · rename_i same
      refine ⟨?_, ?_, ?_⟩
      · rw [others .create (by simp [same])]; exact creates
      · rw [waiting_append_of_eq pending same]; exact deletes.append_right [a]
      · rw [others .update (by simp [same])]; exact updates
  · rename_i answered
    have all (op : Operation) : waiting (seen ++ [a]) op = waiting seen op :=
      waiting_append_of_ne fun both => answered both.1
    exact ⟨all .create ▸ creates, all .delete ▸ deletes, all .update ▸ updates⟩

/-- The order of the queue does not count. -/
theorem Gathering.Of.of_perm (known : g.Of queue) (perm : queue.Perm queue') : g.Of queue' :=
  ⟨known.creates.trans (perm.filter _), known.deletes.trans (perm.filter _),
    known.updates.of_perm (perm.filter _) (.refl _)⟩

theorem Gathers.of (gathers : Gathers queue g) : g.Of queue := by
  induction gathers with
  | start => exact ⟨.nil, .nil, .empty⟩
  | take past a ih => exact ih.take a
  | reorder past again ih =>
    exact ⟨ih.creates, ih.deletes, ih.updates.of_perm (.refl _) again⟩

/-- A pass can always go on. -/
theorem Gathers.foldl (gathers : Gathers seen g) (queue : List Attempt) :
    Gathers (seen ++ queue) (queue.foldl Gathering.take g) := by
  induction queue generalizing seen g with
  | nil => simpa using gathers
  | cons a queue ih => simpa using ih (gathers.take a)

/-- What a batch is built of. -/
theorem exists_gathering (queue : List Attempt) :
    ∃ g : Gathering, g.Of queue ∧ ∀ maxCreates, build queue maxCreates = g.batch maxCreates :=
  ⟨⟨waiting queue .create, waiting queue .delete, _⟩, ⟨.refl _, .refl _, selection_of queue⟩,
    fun _ => rfl⟩

end Gathering

/-! ## The division of a queue -/

section Division
variable {queue : List Attempt} {maxCreates : Nat} {b b' : Batch} {g : Gathering}
  {a w : Attempt}

/-- The pending creates of a queue that a batch does not take. -/
def leftOut (queue : List Attempt) (b : Batch) : List Attempt :=
  (waiting queue .create).filter fun a => a ∉ b.creates

/-- The pending updates of an event. -/
def updatesOf (queue : List Attempt) (event : Uuid) : List Attempt :=
  (waiting queue .update).filter fun a => a.event = event

/-- How a batch divides the pending attempts of a queue. -/
structure Divides (queue : List Attempt) (maxCreates : Nat) (b : Batch) : Prop where
  /-- Nothing is lost, and nothing comes twice. -/
  whole : (b.creates.map (·.id) ++ (b.leftOut queue).map (·.id) ++ b.updates.map (·.id) ++
    b.superseded ++ b.deletes.map (·.id)).Perm ((queue.filter (·.isPending)).map (·.id))
  creates : (b.creates ++ b.leftOut queue).Perm (waiting queue .create)
  deletes : b.deletes.Perm (waiting queue .delete)
  /-- As many creates are taken as the cap allows, and they are the oldest. -/
  capped : b.creates.length = min maxCreates (waiting queue .create).length
  oldest : ∀ a ∈ b.creates, ∀ l ∈ b.leftOut queue, a.Before l
  /-- One update is taken of each event that has any, the latest. -/
  updates : ∀ event,
    (b.updates.filter fun a => a.event = event) = (Attempt.latest? (updatesOf queue event)).toList
  /-- All other updates are superseded, by the update of their event that is taken. -/
  superseded : ∀ id, id ∈ b.superseded ↔
    ∃ a ∈ waiting queue .update, a.id = id ∧ a ∉ b.updates
  winner : ∀ a ∈ waiting queue .update, a.id ∈ b.superseded → ∃ w,
    b.winner? a = some w ∧ w ∈ b.updates ∧ w.event = a.event ∧ a.Before w
  /-- Everything stands in order. -/
  ascending : b.superseded.Pairwise (· < ·)
  sorted : ∀ op, (b.group op).Pairwise Attempt.Before

/-- Pending attempts wait for one of the operations. -/
theorem waiting_perm (queue : List Attempt) :
    (waiting queue .create ++ waiting queue .update ++ waiting queue .delete).Perm
      (queue.filter (·.isPending)) := by
  induction queue with
  | nil => exact .nil
  | cons a queue ih =>
    by_cases pending : a.isPending = true
    · have here (op : Operation) : waiting (a :: queue) op =
          if a.operation = op then a :: waiting queue op else waiting queue op := by
        simp [waiting, List.filter_cons, pending]
      rw [List.filter_cons_of_pos (by simpa using pending), here, here, here]
      refine List.Perm.trans ?_ (ih.cons a)
      cases a.operation with
      | create => simp
      | update => simp [List.perm_middle]
      | delete =>
        simp only [reduceCtorEq, reduceIte]
        exact List.perm_middle
    · have none (op : Operation) : waiting (a :: queue) op = waiting queue op := by
        simp [waiting, pending]
      rw [List.filter_cons_of_neg (by simpa using pending), none, none, none]
      exact ih

/-- What is left of a list without repetitions once its first members have been taken. -/
theorem filter_not_mem_take {l : List Attempt} (nodup : l.Nodup) (n : Nat) :
    (l.filter fun a => a ∉ l.take n) = l.drop n := by
  have split := l.take_append_drop n
  rw [← split, List.nodup_append] at nodup
  conv_lhs => rw [← split, List.filter_append, split]
  have taken : ((l.take n).filter fun a => a ∉ l.take n) = [] :=
    List.filter_eq_nil_iff.2 fun a mem => by simpa using mem
  have left : ((l.drop n).filter fun a => a ∉ l.take n) = l.drop n :=
    List.filter_eq_self.2 fun a mem => by
      simpa using fun taken => nodup.2.2 a taken a mem rfl
  rw [taken, left, List.nil_append]

/-- A batch takes the creates that come first, and leaves out the others. -/
theorem Gathering.Of.leftOut_perm (known : g.Of queue) (distinct : (queue.map (·.id)).Nodup) :
    ((g.batch maxCreates).leftOut queue).Perm
      ((Attempt.oldestFirst g.creates).drop maxCreates) := by
  have sorted := (Attempt.oldestFirst_perm g.creates).trans known.creates
  have nodup : (Attempt.oldestFirst g.creates).Nodup :=
    sorted.nodup_iff.2 (distinct.of_map.filter _)
  rw [← filter_not_mem_take nodup]
  exact sorted.symm.filter _

/-- A batch holds the latest update of each event. -/
theorem Gathering.Of.mem_updates_iff (known : g.Of queue) (distinct : (queue.map (·.id)).Nodup) :
    a ∈ (g.batch maxCreates).updates ↔ Attempt.latest? (updatesOf queue a.event) = some a :=
  Attempt.mem_oldestFirst.trans
    (known.updates.mem_kept_iff (Attempt.nodup_filter distinct _))

/-- It holds no other update of an event. -/
theorem Gathering.Of.updates_of_event (known : g.Of queue) (distinct : (queue.map (·.id)).Nodup)
    (event : Uuid) : ((g.batch maxCreates).updates.filter fun a => a.event = event) =
      (Attempt.latest? (updatesOf queue event)).toList := by
  have events : ((g.batch maxCreates).updates.map (·.event)).Nodup :=
    ((Attempt.oldestFirst_perm _).map _).nodup_iff.2 known.updates.one
  have only (a : Attempt) : a ∈ ((g.batch maxCreates).updates.filter fun a => a.event = event) ↔
      Attempt.latest? (updatesOf queue event) = some a := by
    rw [List.mem_filter, decide_eq_true_eq, known.mem_updates_iff distinct]
    constructor
    · rintro ⟨latest, rfl⟩
      exact latest
    · intro latest
      have same := (List.mem_filter.1 (Attempt.latest?_mem latest)).2
      obtain rfl : a.event = event := by simpa using same
      exact ⟨latest, rfl⟩
  cases latest : Attempt.latest? (updatesOf queue event) with
  | none => exact List.eq_nil_iff_forall_not_mem.2 fun a mem => by simp [only, latest] at mem
  | some k =>
    refine List.perm_singleton.1 ((List.perm_ext_iff_of_nodup ?_ (List.nodup_singleton k)).2 ?_)
    · exact events.of_map.filter _
    · intro a
      rw [only, latest, List.mem_singleton, Option.some.injEq, eq_comm]

/-- The update that supersedes another one is the latest of its event, and a different one. -/
theorem Gathering.Of.exists_winner (known : g.Of queue) (distinct : (queue.map (·.id)).Nodup)
    (waits : a ∈ waiting queue .update) (out : a ∉ (g.batch maxCreates).updates) :
    ∃ w, (g.batch maxCreates).winner? a = some w ∧ w ∈ (g.batch maxCreates).updates ∧
      w.event = a.event ∧ a.Before w := by
  have mem : a ∈ updatesOf queue a.event := List.mem_filter.2 ⟨waits, by simp⟩
  obtain ⟨w, latest⟩ : ∃ w, Attempt.latest? (updatesOf queue a.event) = some w :=
    Option.ne_none_iff_exists'.1 fun none => by
      rw [(Attempt.latest?_eq_none_iff _).1 none] at mem
      cases mem
  obtain ⟨waits', same⟩ := List.mem_filter.1 (Attempt.latest?_mem latest)
  have event : w.event = a.event := by simpa using same
  have taken : w ∈ (g.batch maxCreates).updates :=
    (known.mem_updates_iff distinct).2 (event ▸ latest)
  refine ⟨w, ?_, taken, event, (Attempt.notAfter_latest? latest a mem).before fun same => out ?_⟩
  · rw [winner?, ← List.head?_filter, known.updates_of_event distinct, latest]
    rfl
  · rwa [Attempt.eq_of_id_eq (Attempt.nodup_filter distinct _) waits waits' same]

/-- What is gathered from a queue makes a batch that divides it. -/
theorem Gathering.Of.divides (known : g.Of queue) (distinct : (queue.map (·.id)).Nodup)
    (maxCreates : Nat) : Divides queue maxCreates (g.batch maxCreates) := by
  have nodup (op : Operation) : ((waiting queue op).map (·.id)).Nodup :=
    Attempt.nodup_filter distinct _
  have nodup_creates := (known.creates.map (·.id)).nodup_iff.2 (nodup .create)
  have nodup_deletes := (known.deletes.map (·.id)).nodup_iff.2 (nodup .delete)
  have left : ((g.batch maxCreates).leftOut queue).Perm _ := known.leftOut_perm distinct
  have sorted_creates := Attempt.pairwise_before_oldestFirst nodup_creates
  rw [← List.take_append_drop maxCreates (Attempt.oldestFirst g.creates),
    List.pairwise_append] at sorted_creates
  have creates : ((g.batch maxCreates).creates ++ (g.batch maxCreates).leftOut queue).Perm
      (waiting queue .create) := by
    refine (left.append_left _).trans ?_
    rw [batch, List.take_append_drop]
    exact (Attempt.oldestFirst_perm _).trans known.creates
  have deletes : (g.batch maxCreates).deletes.Perm (waiting queue .delete) :=
    (Attempt.oldestFirst_perm _).trans known.deletes
  have updates : ((g.batch maxCreates).updates.map (·.id) ++ (g.batch maxCreates).superseded).Perm
      ((waiting queue .update).map (·.id)) :=
    (((Attempt.oldestFirst_perm _).map _).append (List.mergeSort_perm _ _)).trans
      known.updates.perm
  have superseded (id : Uuid) : id ∈ (g.batch maxCreates).superseded ↔
      ∃ a ∈ waiting queue .update, a.id = id ∧ a ∉ (g.batch maxCreates).updates := by
    rw [batch, List.mem_mergeSort, known.updates.mem_replaced_iff (nodup .update)]
    simp only [Attempt.mem_oldestFirst]
  refine ⟨?_, creates, deletes, ?_, ?_, known.updates_of_event distinct, superseded, ?_, ?_, ?_⟩
  · refine List.Perm.trans ?_ ((waiting_perm queue).map _)
    rw [List.map_append, List.map_append, List.append_assoc _ _ (g.batch maxCreates).superseded,
      ← List.map_append]
    exact ((creates.map _).append updates).append (deletes.map _)
  · rw [batch, List.length_take, (Attempt.oldestFirst_perm _).length_eq,
      known.creates.length_eq]
  · exact fun a taken l out => sorted_creates.2.2 a taken l (left.subset out)
  · intro a waits replaced
    obtain ⟨a', waits', same, out⟩ := (superseded a.id).1 replaced
    rw [Attempt.eq_of_id_eq (nodup .update) waits' waits same] at out
    exact known.exists_winner distinct waits out
  · exact Uuid.pairwise_lt_mergeSort (known.updates.nodup_replaced (nodup .update))
  · intro op
    cases op with
    | create => exact sorted_creates.1
    | update =>
      exact Attempt.pairwise_before_oldestFirst (known.updates.nodup_kept (nodup .update))
    | delete => exact Attempt.pairwise_before_oldestFirst nodup_deletes

/-- A batch that divides a queue holds the latest update of each event. -/
theorem Divides.mem_updates_iff (divides : Divides queue maxCreates b) :
    a ∈ b.updates ↔ Attempt.latest? (updatesOf queue a.event) = some a := by
  have here : a ∈ b.updates ↔ a ∈ b.updates.filter fun c => c.event = a.event := by simp
  rw [here, divides.updates, Option.mem_toList]

/-- Sorted by recency, the pending creates are those that are taken and those that are left out. -/
theorem Divides.creates_eq (divides : Divides queue maxCreates b)
    (distinct : (queue.map (·.id)).Nodup) :
    b.creates = (Attempt.oldestFirst (waiting queue .create)).take
      (min maxCreates (waiting queue .create).length) := by
  have nodup : ((waiting queue .create).map (·.id)).Nodup := Attempt.nodup_filter distinct _
  have perm : (b.creates ++ Attempt.oldestFirst (b.leftOut queue)).Perm (waiting queue .create) :=
    ((Attempt.oldestFirst_perm _).append_left _).trans divides.creates
  have sorted : (b.creates ++ Attempt.oldestFirst (b.leftOut queue)).Pairwise
      Attempt.NotAfter := by
    refine List.pairwise_append.2 ⟨?_, Attempt.pairwise_oldestFirst _, fun a taken l out => ?_⟩
    · exact (divides.sorted .create).imp Attempt.Before.notAfter
    · exact (divides.oldest a taken l (Attempt.mem_oldestFirst.1 out)).notAfter
  rw [Attempt.oldestFirst_eq_of_perm nodup perm sorted, ← divides.capped, List.take_left]

/-- There is one way to divide a queue. -/
theorem Divides.eq (divides : Divides queue maxCreates b) (divides' : Divides queue maxCreates b')
    (distinct : (queue.map (·.id)).Nodup) : b = b' := by
  have creates : b.creates = b'.creates :=
    (divides.creates_eq distinct).trans (divides'.creates_eq distinct).symm
  have updates : b.updates = b'.updates :=
    (divides.sorted .update).eq_of_mem_iff (divides'.sorted .update) fun a =>
      divides.mem_updates_iff.trans divides'.mem_updates_iff.symm
  have deletes : b.deletes = b'.deletes :=
    (divides.sorted .delete).eq_of_mem_iff (divides'.sorted .delete) fun a =>
      divides.deletes.mem_iff.trans divides'.deletes.mem_iff.symm
  have superseded : b.superseded = b'.superseded :=
    divides.ascending.eq_of_mem_iff divides'.ascending fun id => by
      rw [divides.superseded, divides'.superseded, updates]
  cases b
  cases b'
  simp_all

/-- The batch of a queue whose attempts have identifiers of their own is the one that divides it,
and it is what any pass over the queue in any order gathers. -/
theorem divides_build (queue : List Attempt) (maxCreates : Nat)
    (distinct : (queue.map (·.id)).Nodup) :
    (∀ b, Divides queue maxCreates b ↔ b = build queue maxCreates) ∧
    ∀ queue' : List Attempt, queue'.Perm queue →
      build queue' maxCreates = build queue maxCreates ∧
      (∃ g, Gathers queue' g) ∧
      ∀ g, Gathers queue' g → g.batch maxCreates = build queue maxCreates := by
  obtain ⟨built, known, build_eq⟩ := exists_gathering queue
  have divides : Divides queue maxCreates (build queue maxCreates) :=
    build_eq maxCreates ▸ known.divides distinct maxCreates
  have unique (g : Gathering) (known : g.Of queue) :
      g.batch maxCreates = build queue maxCreates :=
    (known.divides distinct maxCreates).eq divides distinct
  refine ⟨fun b => ⟨fun divided => divided.eq divides distinct, ?_⟩, fun queue' perm => ?_⟩
  · rintro rfl
    exact divides
  · obtain ⟨built', known', build_eq'⟩ := exists_gathering queue'
    refine ⟨?_, ⟨_, Gathers.start.foldl queue'⟩,
      fun g gathers => unique g (gathers.of.of_perm perm)⟩
    rw [build_eq', unique built' (known'.of_perm perm)]

/-- Three updates of one event, two of them created at the same instant, an answered one, two
creates and a delete. -/
def mixedQueue : List Attempt :=
  let attempt (id event : Nat) (op : Operation) (second : Int) : Attempt :=
    let created := Simulation.World.atSecond second
    .pending (.ofNat id) (.ofNat event) op ⟨created, created⟩ created
  [attempt 12 1 .update 1000, attempt 21 2 .create 1000, attempt 14 1 .update 1000,
    attempt 22 3 .create 999, attempt 13 1 .update 999, attempt 31 4 .delete 1000,
    (attempt 15 1 .update 2000).complete (.withdrawn (Simulation.World.atSecond 2000))]

theorem divides_build_mixed :
    (mixedQueue.map (·.id)).Nodup ∧ mixedQueue.reverse.Perm mixedQueue ∧
    Divides mixedQueue 1 (build mixedQueue 1) ∧
    build mixedQueue.reverse 1 = build mixedQueue 1 ∧
    Gathers mixedQueue.reverse (mixedQueue.reverse.foldl Gathering.take ⟨[], [], .empty⟩) ∧
    (mixedQueue.reverse.foldl Gathering.take ⟨[], [], .empty⟩).batch 1 = build mixedQueue 1 := by
  have distinct : (mixedQueue.map (·.id)).Nodup := by decide
  have gathers := Gathers.start.foldl mixedQueue.reverse
  obtain ⟨unique, orders⟩ := divides_build mixedQueue 1 distinct
  obtain ⟨same, -, gathered⟩ := orders mixedQueue.reverse (List.reverse_perm _)
  exact ⟨distinct, List.reverse_perm _, (unique _).2 rfl, same, gathers, gathered _ gathers⟩

/-- Whichever update comes first, the one with the greatest identifier is kept. -/
example : (mixedQueue.foldl Gathering.take ⟨[], [], .empty⟩).updates.kept.map (·.id.number) = [14] ∧
    (mixedQueue.reverse.foldl Gathering.take ⟨[], [], .empty⟩).updates.kept.map (·.id.number) =
      [14] := by decide

end Division
end Batch
end CalendarSync
