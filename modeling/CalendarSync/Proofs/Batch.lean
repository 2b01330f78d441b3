import CalendarSync.Batch
import CalendarSync.Proofs.Recency

/-!
# What a batch holds

A batch divides the pending attempts of a queue: each group holds attempts of its operation, the
update kept for an event is its most recent one, and the others are superseded by it.
-/

namespace CalendarSync
set_option autoImplicit false

namespace Selection

/-- What is known of a selection when these updates have been seen. -/
structure Of (seen : List Attempt) (s : Selection) : Prop where
  perm : (s.kept.map (·.id) ++ s.replaced).Perm (seen.map (·.id))
  mem : ∀ k ∈ s.kept, k ∈ seen
  one : (s.kept.map (·.event)).Nodup
  greatest : ∀ a ∈ seen, ∃ k ∈ s.kept, k.event = a.event ∧ a.NotAfter k

theorem Of.empty : Of [] .empty :=
  ⟨.nil, by simp [Selection.empty], .nil, by simp⟩

/-- Replacing the update kept for an event leaves the others alone. -/
theorem map_replace {kept before after : List Attempt} {current update : Attempt}
    (one : (kept.map (·.event)).Nodup) (split : kept = before ++ current :: after)
    (event : current.event = update.event) :
    (kept.map fun a => if a.event = update.event then update else a) =
      before ++ update :: after := by
  subst split
  rw [List.map_append, List.map_cons, List.nodup_append] at one
  obtain ⟨-, tail, apart⟩ := one
  have other : ∀ a ∈ before, ¬ a.event = update.event := fun a mem same =>
    apart a.event (List.mem_map_of_mem mem) current.event List.mem_cons_self
      (same.trans event.symm)
  have other' : ∀ a ∈ after, ¬ a.event = update.event := fun a mem same =>
    (List.nodup_cons.1 tail).1 (List.mem_map.2 ⟨a, mem, same.trans event.symm⟩)
  rw [List.map_append, List.map_cons, if_pos event]
  congr 1
  · exact (List.map_congr_left fun a mem => if_neg (other a mem)).trans (List.map_id _)
  · congr 1
    exact (List.map_congr_left fun a mem => if_neg (other' a mem)).trans (List.map_id _)

theorem perm_append_singleton {seen : List Attempt} {s : Selection} {update : Attempt}
    (perm : (s.kept.map (·.id) ++ s.replaced).Perm (seen.map (·.id))) :
    (update.id :: (s.kept.map (·.id) ++ s.replaced)).Perm ((seen ++ [update]).map (·.id)) := by
  rw [List.map_append]
  exact (perm.cons _).trans (List.perm_append_singleton _ _).symm

/-- The first update of an event. -/
theorem Of.first {seen : List Attempt} {s : Selection} {update : Attempt} (known : Of seen s)
    (new : ∀ k ∈ s.kept, ¬ k.event = update.event) :
    Of (seen ++ [update]) { s with kept := update :: s.kept } := by
  obtain ⟨perm, mem, one, greatest⟩ := known
  refine ⟨perm_append_singleton perm, ?_, ?_, ?_⟩
  · intro k hk
    rcases List.mem_cons.1 hk with rfl | hk
    · simp
    · exact List.mem_append_left _ (mem k hk)
  · refine List.nodup_cons.2 ⟨fun h => ?_, one⟩
    obtain ⟨k, hk, same⟩ := List.mem_map.1 h
    exact new k hk same
  · intro a ha
    rcases List.mem_append.1 ha with ha | ha
    · obtain ⟨k, hk, le⟩ := greatest a ha
      exact ⟨k, List.mem_cons_of_mem _ hk, le⟩
    · obtain rfl := List.mem_singleton.1 ha
      exact ⟨a, List.mem_cons_self, rfl, Attempt.notAfter_refl a⟩

/-- An update that is not after the one kept for its event. -/
theorem Of.keep {seen : List Attempt} {s : Selection} {current update : Attempt} (known : Of seen s)
    (current_mem : current ∈ s.kept) (event : current.event = update.event)
    (older : update.NotAfter current) :
    Of (seen ++ [update]) { s with replaced := update.id :: s.replaced } := by
  obtain ⟨perm, mem, one, greatest⟩ := known
  refine ⟨?_, fun k hk => List.mem_append_left _ (mem k hk), one, ?_⟩
  · exact List.perm_middle.trans (perm_append_singleton perm)
  · intro a ha
    rcases List.mem_append.1 ha with ha | ha
    · exact greatest a ha
    · obtain rfl := List.mem_singleton.1 ha
      exact ⟨current, current_mem, event, older⟩

/-- An update takes the place of the one kept for its event. -/
theorem Of.replace {seen before after : List Attempt} {s : Selection} {current update : Attempt}
    (known : Of seen s) (split : s.kept = before ++ current :: after)
    (event : current.event = update.event) (newer : current.NotAfter update) :
    Of (seen ++ [update])
      { kept := before ++ update :: after, replaced := current.id :: s.replaced } := by
  obtain ⟨perm, mem, one, greatest⟩ := known
  refine ⟨?_, ?_, ?_, ?_⟩
  · refine List.Perm.trans ?_ (perm_append_singleton perm)
    rw [split]
    simp only [List.map_append, List.map_cons, List.append_assoc, List.cons_append]
    refine List.perm_middle.trans (List.Perm.cons _ ?_)
    rw [← List.append_assoc]
    refine List.perm_middle.trans ?_
    rw [List.append_assoc]
    exact List.perm_middle.symm
  · intro k hk
    rcases List.mem_append.1 hk with hk | hk
    · exact List.mem_append_left _ (mem k (split ▸ List.mem_append_left _ hk))
    · rcases List.mem_cons.1 hk with rfl | hk
      · simp
      · exact List.mem_append_left _
          (mem k (split ▸ List.mem_append_right _ (List.mem_cons_of_mem _ hk)))
  · rw [split] at one
    simpa only [List.map_append, List.map_cons, event] using one
  · intro a ha
    have kept : ∀ k ∈ s.kept, k.event = a.event → a.NotAfter k →
        ∃ k ∈ before ++ update :: after, k.event = a.event ∧ a.NotAfter k := by
      intro k hk same le
      rw [split, List.mem_append, List.mem_cons] at hk
      rcases hk with hk | rfl | hk
      · exact ⟨k, List.mem_append_left _ hk, same, le⟩
      · exact ⟨update, by simp, event.symm.trans same, le.trans newer⟩
      · exact ⟨k, by simp [hk], same, le⟩
    rcases List.mem_append.1 ha with ha | ha
    · obtain ⟨k, hk, same, le⟩ := greatest a ha
      exact kept k hk same le
    · obtain rfl := List.mem_singleton.1 ha
      exact ⟨a, by simp, rfl, Attempt.notAfter_refl a⟩

/-- Seeing one more update. -/
theorem Of.offer {seen : List Attempt} {s : Selection} (known : Of seen s) (update : Attempt) :
    Of (seen ++ [update]) (s.offer update) := by
  rw [Selection.offer]
  split
  · rename_i none
    exact known.first (by simpa using List.find?_eq_none.1 none)
  · rename_i current found
    obtain ⟨event, before, after, split, -⟩ := List.find?_eq_some_iff_append.1 found
    have event : current.event = update.event := by simpa using event
    split
    · rename_i older
      exact known.keep (split ▸ List.mem_append_right _ List.mem_cons_self) event older
    · rename_i newer
      rw [map_replace known.one split event]
      exact known.replace split event ((Attempt.notAfter_total _ _).resolve_left newer)

theorem Of.foldl {seen : List Attempt} {s : Selection} (known : Of seen s)
    (updates : List Attempt) : Of (seen ++ updates) (updates.foldl Selection.offer s) := by
  induction updates generalizing seen s with
  | nil => simpa using known
  | cons u rest ih => simpa using ih (known.offer u)

end Selection

namespace Batch
variable {queue : List Attempt} {maxCreates : Nat} {op : Operation} {a w : Attempt}

/-- The attempts of a queue that wait for an operation. -/
def waiting (queue : List Attempt) (op : Operation) : List Attempt :=
  queue.filter fun a => a.isPending && a.operation == op

/-- The group of an operation. -/
def group (b : Batch) : Operation → List Attempt
  | .create => b.creates
  | .update => b.updates
  | .delete => b.deletes

/-- The attempts that are sent. -/
def attempts (b : Batch) : List Attempt :=
  b.creates ++ b.updates ++ b.deletes

theorem mem_waiting :
    a ∈ waiting queue op ↔ a ∈ queue ∧ a.isPending = true ∧ a.operation = op := by
  simp [waiting]

/-- The selection from which a batch takes its updates. -/
theorem selection_of (queue : List Attempt) :
    Selection.Of (waiting queue .update)
      ((waiting queue .update).foldl Selection.offer .empty) := by
  simpa using Selection.Of.empty.foldl (waiting queue .update)

theorem mem_updates :
    a ∈ (build queue maxCreates).updates ↔
      a ∈ ((waiting queue .update).foldl Selection.offer .empty).kept :=
  Attempt.mem_oldestFirst

/-- A group holds pending attempts of its operation. -/
theorem mem_waiting_of_mem_group (mem : a ∈ (build queue maxCreates).group op) :
    a ∈ waiting queue op := by
  cases op with
  | create => exact Attempt.mem_oldestFirst.1 (List.mem_of_mem_take mem)
  | update => exact (selection_of queue).mem a (mem_updates.1 mem)
  | delete => exact Attempt.mem_oldestFirst.1 mem

theorem mem_of_mem_group (mem : a ∈ (build queue maxCreates).group op) :
    a ∈ queue ∧ a.operation = op := by
  obtain ⟨listed, -, same⟩ := mem_waiting.1 (mem_waiting_of_mem_group mem)
  exact ⟨listed, same⟩

/-- A group holds no attempt twice. -/
theorem nodup_group (distinct : (queue.map (·.id)).Nodup) :
    (((build queue maxCreates).group op).map (·.id)).Nodup := by
  have waiting_nodup : ∀ op, ((waiting queue op).map (·.id)).Nodup := fun _ =>
    Attempt.nodup_filter distinct _
  have sorted : ∀ l : List Attempt, (l.map (·.id)).Nodup →
      ((Attempt.oldestFirst l).map (·.id)).Nodup := fun l nodup =>
    ((Attempt.oldestFirst_perm l).map _).nodup_iff.2 nodup
  cases op with
  | create => exact (sorted _ (waiting_nodup _)).sublist ((List.take_sublist _ _).map _)
  | update =>
    have divided := (selection_of queue).perm.nodup_iff.2 (waiting_nodup .update)
    exact sorted _ divided.of_append_left
  | delete => exact sorted _ (waiting_nodup _)

theorem mem_superseded {id : Uuid} :
    id ∈ (build queue maxCreates).superseded ↔
      id ∈ ((waiting queue .update).foldl Selection.offer .empty).replaced :=
  List.mem_mergeSort

/-- A superseded identifier is that of an update of the queue. -/
theorem exists_of_mem_superseded {id : Uuid} (h : id ∈ (build queue maxCreates).superseded) :
    ∃ a ∈ queue, a.id = id ∧ a.operation = .update := by
  obtain ⟨a, waits, same⟩ := List.mem_map.1
    ((selection_of queue).perm.subset (List.mem_append_right _ (mem_superseded.1 h)))
  obtain ⟨mem, -, update⟩ := mem_waiting.1 waits
  exact ⟨a, mem, same, update⟩

/-- The superseded updates are the pending ones that are not sent. -/
theorem mem_superseded_iff (distinct : (queue.map (·.id)).Nodup) (mem : a ∈ queue) :
    a.id ∈ (build queue maxCreates).superseded ↔
      a.isPending = true ∧ a.operation = .update ∧ a ∉ (build queue maxCreates).updates := by
  have known := selection_of queue
  have nodup := known.perm.nodup_iff.2 (Attempt.nodup_filter distinct _)
  rw [mem_superseded, mem_updates]
  constructor
  · intro replaced
    obtain ⟨b, waits, same⟩ := List.mem_map.1
      (known.perm.subset (List.mem_append_right _ replaced))
    obtain ⟨member, pending, update⟩ := mem_waiting.1 waits
    obtain rfl := Attempt.eq_of_id_eq distinct member mem same
    refine ⟨pending, update, fun kept => ?_⟩
    exact (List.nodup_append.1 nodup).2.2 _ (List.mem_map_of_mem kept) _ replaced rfl
  · rintro ⟨pending, update, out⟩
    have waits : a ∈ waiting queue .update := mem_waiting.2 ⟨mem, pending, update⟩
    rcases List.mem_append.1 (known.perm.symm.subset (List.mem_map_of_mem waits)) with h | h
    · obtain ⟨b, kept, same⟩ := List.mem_map.1 h
      obtain rfl := Attempt.eq_of_id_eq distinct (mem_waiting.1 (known.mem b kept)).1 mem same
      exact absurd kept out
    · exact h

/-- The batch holds one update of an event. -/
theorem eq_of_event_eq (hw : w ∈ (build queue maxCreates).updates)
    (ha : a ∈ (build queue maxCreates).updates) (same : w.event = a.event) : w = a :=
  List.inj_on_of_nodup_map (selection_of queue).one (mem_updates.1 hw) (mem_updates.1 ha) same

theorem winner?_eq_some_iff :
    (build queue maxCreates).winner? a = some w ↔
      w ∈ (build queue maxCreates).updates ∧ w.event = a.event := by
  constructor
  · intro h
    exact ⟨List.mem_of_find?_eq_some h, by simpa using List.find?_some h⟩
  · rintro ⟨mem, same⟩
    cases found : (build queue maxCreates).winner? a with
    | none => exact absurd (by simpa using same) (List.find?_eq_none.1 found w mem)
    | some v =>
      have event : v.event = a.event := by simpa using List.find?_some found
      rw [eq_of_event_eq (List.mem_of_find?_eq_some found) mem (event.trans same.symm)]

/-- Each pending update has a winner, which is no less recent. -/
theorem exists_winner (maxCreates : Nat) (mem : a ∈ waiting queue .update) :
    ∃ w, (build queue maxCreates).winner? a = some w ∧ a.NotAfter w := by
  obtain ⟨w, kept, same, le⟩ := (selection_of queue).greatest a mem
  exact ⟨w, winner?_eq_some_iff.2 ⟨mem_updates.2 kept, same⟩, le⟩

/-- An update that is sent is the most recent one of its event. -/
theorem notAfter_of_mem_updates (hw : w ∈ (build queue maxCreates).updates)
    (ha : a ∈ waiting queue .update) (same : a.event = w.event) : a.NotAfter w := by
  obtain ⟨v, winner, le⟩ := exists_winner maxCreates ha
  obtain ⟨hv, event⟩ := winner?_eq_some_iff.1 winner
  rwa [eq_of_event_eq hv hw (event.trans same)] at le

/-- Nothing is superseded in a queue with one pending update of each event. -/
theorem superseded_eq_nil (distinct : (queue.map (·.id)).Nodup)
    (one : ∀ a ∈ waiting queue .update, ∀ b ∈ waiting queue .update, a.event = b.event → a = b) :
    ∀ a ∈ queue, a.id ∉ (build queue maxCreates).superseded := by
  intro a mem superseded
  obtain ⟨pending, update, out⟩ := (mem_superseded_iff distinct mem).1 superseded
  have waits : a ∈ waiting queue .update := mem_waiting.2 ⟨mem, pending, update⟩
  obtain ⟨w, winner, -⟩ := exists_winner maxCreates waits
  obtain ⟨sent, same⟩ := winner?_eq_some_iff.1 winner
  have sent_waits : w ∈ waiting queue .update := (selection_of queue).mem w (mem_updates.1 sent)
  rw [one w sent_waits a waits same] at sent
  exact out sent

/-- The groups that go out, in order. -/
theorem mem_groups {b : Batch} {g : Operation × List Attempt} :
    g ∈ b.groups ↔ g.2 = b.group g.1 ∧ g.2 ≠ [] := by
  obtain ⟨op, group⟩ := g
  cases op <;> simp [groups, Batch.group]

/-- Each operation has at most one group. -/
theorem nodup_groups (b : Batch) : (b.groups.map Prod.fst).Nodup := by
  have all : ([(Operation.create, b.creates), (.update, b.updates), (.delete, b.deletes)].map
      Prod.fst).Nodup := by simp
  exact all.sublist (List.filter_sublist.map _)

/-- Going through the groups is going through the attempts that are sent. -/
theorem flatMap_groups (b : Batch) (p : Attempt → Bool) :
    (b.groups.flatMap fun g => g.2.filter p) = b.attempts.filter p := by
  have all (gs : List (Operation × List Attempt)) :
      ((gs.filter fun g => !g.2.isEmpty).flatMap fun g => g.2.filter p) =
        gs.flatMap fun g => g.2.filter p := by
    induction gs with
    | nil => rfl
    | cons g gs ih =>
      obtain ⟨op, group⟩ := g
      cases group with
      | nil => simpa using ih
      | cons a group => simp [ih]
  rw [groups, all]
  simp [attempts]

theorem mem_attempts {b : Batch} : a ∈ b.attempts ↔ ∃ op, a ∈ b.group op := by
  simp only [attempts, List.mem_append]
  constructor
  · rintro ((h | h) | h)
    · exact ⟨.create, h⟩
    · exact ⟨.update, h⟩
    · exact ⟨.delete, h⟩
  · rintro ⟨op, h⟩
    cases op with
    | create => exact .inl (.inl h)
    | update => exact .inl (.inr h)
    | delete => exact .inr h

/-- The updates that are sent are those of different events. -/
theorem nodup_events (queue : List Attempt) (maxCreates : Nat) :
    (((build queue maxCreates).attempts.filter (·.operation == .update)).map (·.event)).Nodup := by
  have sorted (op : Operation) : ∀ a ∈ (build queue maxCreates).group op, a.operation = op :=
    fun a mem => (mem_of_mem_group mem).2
  have creates : (build queue maxCreates).creates.filter (·.operation == .update) = [] :=
    List.filter_eq_nil_iff.2 fun a mem => by simp [sorted .create a mem]
  have deletes : (build queue maxCreates).deletes.filter (·.operation == .update) = [] :=
    List.filter_eq_nil_iff.2 fun a mem => by simp [sorted .delete a mem]
  have updates : (build queue maxCreates).updates.filter (·.operation == .update) =
      (build queue maxCreates).updates :=
    List.filter_eq_self.2 fun a mem => by simp [sorted .update a mem]
  rw [attempts, List.filter_append, List.filter_append, creates, deletes, updates,
    List.nil_append, List.append_nil]
  exact ((Attempt.oldestFirst_perm _).map _).nodup_iff.2 (selection_of queue).one

theorem length_waiting (pending : ∀ a ∈ queue, a.isPending = true) :
    (waiting queue .create).length + (waiting queue .update).length +
      (waiting queue .delete).length = queue.length := by
  induction queue with
  | nil => rfl
  | cons a queue ih =>
    rw [List.forall_mem_cons] at pending
    have rest := ih pending.2
    have head (op : Operation) : (waiting (a :: queue) op).length =
        (waiting queue op).length + if a.operation = op then 1 else 0 := by
      by_cases same : a.operation = op <;> simp [waiting, pending.1, same]
    rw [head, head, head, List.length_cons]
    cases a.operation <;> simp <;> omega

/-- A pending attempt of a queue is sent, deferred or superseded. -/
theorem length_queue (pending : ∀ a ∈ queue, a.isPending = true) (maxCreates : Nat) :
    (build queue maxCreates).attempts.length +
      ((waiting queue .create).length - (build queue maxCreates).creates.length) +
      (build queue maxCreates).superseded.length = queue.length := by
  have all := length_waiting pending
  have divided := (selection_of queue).perm.length_eq
  have creates : (build queue maxCreates).creates.length =
      min maxCreates (waiting queue .create).length := by
    rw [← (Attempt.oldestFirst_perm (waiting queue .create)).length_eq]
    exact List.length_take
  have updates : (build queue maxCreates).updates.length =
      ((waiting queue .update).foldl Selection.offer .empty).kept.length :=
    (Attempt.oldestFirst_perm _).length_eq
  have deletes : (build queue maxCreates).deletes.length = (waiting queue .delete).length :=
    (Attempt.oldestFirst_perm _).length_eq
  have superseded : (build queue maxCreates).superseded.length =
      ((waiting queue .update).foldl Selection.offer .empty).replaced.length :=
    List.length_mergeSort _
  simp only [List.length_append, List.length_map] at divided
  simp only [attempts, List.length_append]
  omega

end Batch
end CalendarSync
