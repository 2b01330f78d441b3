import CalendarSync.Attempt
import Mathlib.Data.List.Nodup

/-!
# Recency

Attempts with identifiers of their own are in a strict order by recency. `latest?` finds the
greatest attempt of a history and `oldestFirst` sorts it; neither depends on the order in which the
history is given.
-/

namespace CalendarSync
set_option autoImplicit false

theorem Uuid.le_antisymm {a b : Uuid} (h : a ≤ b) (h' : b ≤ a) : a = b := by
  obtain ⟨m, _⟩ := a
  obtain ⟨n, _⟩ := b
  have : m = n := Nat.le_antisymm h h'
  subst this
  rfl

/-- Members that are all different are sorted strictly. -/
theorem pairwise_ne_mergeSort {α : Type} {le : α → α → Bool} {l : List α}
    (trans : ∀ a b c, le a b = true → le b c = true → le a c = true)
    (total : ∀ a b, (le a b || le b a) = true) (nodup : l.Nodup) :
    (l.mergeSort le).Pairwise fun a b => le a b = true ∧ a ≠ b :=
  (List.pairwise_mergeSort trans total l).and ((List.mergeSort_perm l le).nodup_iff.2 nodup)

namespace Attempt
variable {a b c : Attempt} {l : List Attempt}

theorem notAfter_refl (a : Attempt) : a.NotAfter a :=
  .inr ⟨rfl, Nat.le_refl _⟩

theorem NotAfter.trans (h : a.NotAfter b) (h' : b.NotAfter c) : a.NotAfter c := by
  simp only [NotAfter, Timestamp.lt_def] at *
  rcases h with h | ⟨same, le⟩ <;> rcases h' with h' | ⟨same', le'⟩
  · left; omega
  · rw [← same']; exact .inl h
  · rw [same]; exact .inl h'
  · exact .inr ⟨same.trans same', Nat.le_trans le le'⟩

/-- Attempts that are equally recent are the same. -/
theorem NotAfter.id_eq (h : a.NotAfter b) (h' : b.NotAfter a) : a.id = b.id := by
  simp only [NotAfter, Timestamp.lt_def] at *
  rcases h with h | ⟨same, le⟩ <;> rcases h' with h' | ⟨same', le'⟩
  · omega
  · rw [same'] at h; omega
  · rw [same] at h'; omega
  · exact Uuid.le_antisymm le le'

/-- An attempt created no earlier and with a greater identifier is more recent. -/
theorem notAfter_of_le (created : a.createdAt ≤ b.createdAt) (id : a.id < b.id) :
    a.NotAfter b := by
  rcases Timestamp.lt_or_eq_or_gt a.createdAt b.createdAt with h | h | h
  · exact .inl h
  · exact .inr ⟨h, Nat.le_of_lt id⟩
  · simp only [Timestamp.lt_def, Timestamp.le_def] at h created
    omega

/-- Identifiers tell attempts apart. -/
theorem eq_of_id_eq (distinct : (l.map (·.id)).Nodup) (ha : a ∈ l) (hb : b ∈ l)
    (same : a.id = b.id) : a = b :=
  List.inj_on_of_nodup_map distinct ha hb same

theorem nodup_filter (distinct : (l.map (·.id)).Nodup) (p : Attempt → Bool) :
    ((l.filter p).map (·.id)).Nodup :=
  distinct.sublist (List.filter_sublist.map _)

/-- A greater identifier is a new one. -/
theorem nodup_append_of_lt (distinct : (l.map (·.id)).Nodup) (greater : ∀ b ∈ l, b.id < a.id) :
    ((l ++ [a]).map (·.id)).Nodup := by
  rw [List.map_append, List.nodup_append]
  refine ⟨distinct, by simp, ?_⟩
  intro old hold new hnew same
  obtain ⟨b, hb, rfl⟩ := List.mem_map.1 hold
  have issued : new = a.id := List.mem_singleton.1 hnew
  have less : b.id < a.id := greater b hb
  rw [same, issued] at less
  exact Nat.lt_irrefl _ less

/-- A list without repetitions whose members are all the same. -/
theorem length_le_one_of_nodup (nodup : l.Nodup) (same : ∀ a ∈ l, ∀ b ∈ l, a = b) :
    l.length ≤ 1 := by
  cases l with
  | nil => exact Nat.zero_le 1
  | cons a l =>
    have single : a :: l ⊆ [a] := fun b mem =>
      List.mem_singleton.2 (same b mem a List.mem_cons_self)
    exact nodup.length_le_of_subset single

theorem mem_oldestFirst : a ∈ oldestFirst l ↔ a ∈ l :=
  (List.mergeSort_perm l _).mem_iff

theorem oldestFirst_perm (l : List Attempt) : (oldestFirst l).Perm l :=
  List.mergeSort_perm l _

theorem oldestFirst_eq_nil_iff : oldestFirst l = [] ↔ l = [] := by
  rw [← List.length_eq_zero_iff, (oldestFirst_perm l).length_eq, List.length_eq_zero_iff]

theorem decide_notAfter_trans (a b c : Attempt) (h : decide (a.NotAfter b) = true)
    (h' : decide (b.NotAfter c) = true) : decide (a.NotAfter c) = true :=
  decide_eq_true ((of_decide_eq_true h).trans (of_decide_eq_true h'))

theorem decide_notAfter_total (a b : Attempt) :
    (decide (a.NotAfter b) || decide (b.NotAfter a)) = true := by
  simpa using notAfter_total a b

theorem pairwise_oldestFirst (l : List Attempt) : (oldestFirst l).Pairwise NotAfter :=
  (List.pairwise_mergeSort decide_notAfter_trans decide_notAfter_total l).imp of_decide_eq_true

/-- There is one order from the oldest attempt to the most recent one. -/
theorem oldestFirst_eq_of_perm {l' : List Attempt} (distinct : (l.map (·.id)).Nodup)
    (perm : l'.Perm l) (sorted : l'.Pairwise NotAfter) : oldestFirst l = l' := by
  refine ((oldestFirst_perm l).trans perm.symm).eq_of_pairwise ?_ (pairwise_oldestFirst l) sorted
  intro a b ha hb le ge
  exact eq_of_id_eq distinct (mem_oldestFirst.1 ha) (perm.subset hb) (le.id_eq ge)

/-- Inserting one attempt after the other leads to the same order, and can be evaluated. -/
theorem oldestFirst_eq_foldr (l : List Attempt) :
    oldestFirst l = l.foldr (fun a sorted => sorted.takeWhile (fun b => !decide (a.NotAfter b)) ++
      a :: sorted.dropWhile fun b => !decide (a.NotAfter b)) [] := by
  induction l with
  | nil => exact List.mergeSort_nil
  | cons a l ih =>
    obtain ⟨before, rest, sorted, split, earlier⟩ :=
      List.mergeSort_cons decide_notAfter_trans decide_notAfter_total a l
    have ordered := pairwise_oldestFirst (a :: l)
    rw [oldestFirst, sorted, List.pairwise_append, List.pairwise_cons] at ordered
    rw [List.foldr_cons, ← ih, oldestFirst, oldestFirst, sorted, split,
      List.takeWhile_append_of_pos earlier, List.dropWhile_append_of_pos earlier]
    cases rest with
    | nil => rw [List.takeWhile_nil, List.dropWhile_nil, List.append_nil]
    | cons b rest =>
      have later : a.NotAfter b := ordered.2.1.1 b List.mem_cons_self
      simp [later]

theorem latest?_mem (h : latest? l = some a) : a ∈ l := by
  induction l generalizing a with
  | nil => cases h
  | cons b rest ih =>
    simp only [latest?] at h
    split at h
    · cases h; exact List.mem_cons_self
    · split at h
      · cases h; exact List.mem_cons_of_mem _ (ih ‹_›)
      · cases h; exact List.mem_cons_self

/-- No attempt of a history is more recent than the latest one. -/
theorem notAfter_latest? (h : latest? l = some a) : ∀ b ∈ l, b.NotAfter a := by
  induction l generalizing a with
  | nil => cases h
  | cons b rest ih =>
    intro c mem
    simp only [latest?] at h
    split at h
    · rename_i none
      cases h
      rw [(latest?_eq_none_iff rest).1 none, List.mem_singleton] at mem
      exact mem ▸ notAfter_refl _
    · rename_i d last
      have rest_le := ih last
      split at h
      · cases h
        rcases List.mem_cons.1 mem with rfl | mem
        · assumption
        · exact rest_le c mem
      · rename_i older
        cases h
        rcases List.mem_cons.1 mem with rfl | mem
        · exact notAfter_refl _
        · exact (rest_le c mem).trans ((notAfter_total b d).resolve_left older)

/-- The latest attempt is the one that no other is more recent than. -/
theorem latest?_eq_some_iff (distinct : (l.map (·.id)).Nodup) :
    latest? l = some a ↔ a ∈ l ∧ ∀ b ∈ l, b.NotAfter a := by
  constructor
  · intro h
    exact ⟨latest?_mem h, notAfter_latest? h⟩
  · rintro ⟨mem, greatest⟩
    cases h : latest? l with
    | none =>
      rw [(latest?_eq_none_iff l).1 h] at mem
      cases mem
    | some b =>
      have latest := latest?_mem h
      rw [eq_of_id_eq distinct latest mem ((greatest b latest).id_eq (notAfter_latest? h a mem))]

end Attempt
end CalendarSync
