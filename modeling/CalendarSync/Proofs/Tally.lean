import CalendarSync.Proofs.Convergence
import Mathlib.Data.List.Sort

/-!
# Plans in one pass

The plan for a department can be made in one pass over the Planner's list, which notes the entry at
which each key is met first and counts how often it is met. Whatever is met once is met first, so
the entries that are noted and counted once are those whose keys are listed once, in their order.
-/

namespace CalendarSync
set_option autoImplicit false

/-! ## Keys that are listed repeatedly -/

/-- Each member once leaves no repetitions. -/
theorem nodup_eraseDups (keys : List String) : keys.eraseDups.Nodup := by
  induction length : keys.length using Nat.strong_induction_on generalizing keys with
  | _ n ih =>
    cases keys with
    | nil => simp
    | cons key keys =>
      rw [List.eraseDups_cons, List.nodup_cons, List.mem_eraseDups]
      refine ⟨by simp, ih _ ?_ _ rfl⟩
      have := List.length_filter_le (fun b => !b == key) keys
      rw [← length, List.length_cons]
      omega

namespace Plan
variable {keys : List String} {key : String}

/-- The keys that are listed at least twice, empty ones apart. -/
theorem mem_repeatedKeys : key ∈ repeatedKeys keys ↔ key ≠ "" ∧ 2 ≤ keys.count key := by
  have listed (twice : 1 < keys.count key) : key ∈ keys := List.count_pos_iff.1 (by omega)
  simp only [repeatedKeys, List.mem_mergeSort, List.mem_eraseDups, List.mem_filter,
    Bool.and_eq_true, bne_iff_ne, decide_eq_true_eq]
  exact ⟨fun ⟨_, nonempty, twice⟩ => ⟨nonempty, twice⟩,
    fun ⟨nonempty, twice⟩ => ⟨listed twice, nonempty, twice⟩⟩

/-- Different texts that are sorted are strictly so. -/
theorem pairwise_lt_mergeSort {texts : List String} (nodup : texts.Nodup) :
    (texts.mergeSort fun a b => decide (a ≤ b)).Pairwise (· < ·) := by
  refine (pairwise_ne_mergeSort ?trans ?total nodup).imp fun {a b} ⟨le, other⟩ => ?strict
  case trans =>
    exact fun a b c h h' =>
      decide_eq_true (String.le_trans (of_decide_eq_true h) (of_decide_eq_true h'))
  case total =>
    intro a b
    simp only [Bool.or_eq_true, decide_eq_true_eq]
    exact String.le_total a b
  case strict => exact Std.lt_of_le_of_ne (of_decide_eq_true le) other

theorem ascending_repeatedKeys (keys : List String) : (repeatedKeys keys).Pairwise (· < ·) :=
  pairwise_lt_mergeSort (nodup_eraseDups _)

end Plan

/-! ## One pass over the list -/

/-- What a pass over the Planner's list notes: the entries at which keys were met first, with their
keys and in their order, and how often each key was met. -/
structure Tally where
  first : List (String × ListedResource)
  count : String → Nat

namespace Tally

/-- Nothing has been met. -/
def empty : Tally := ⟨[], fun _ => 0⟩

/-- Notes one entry with its key; an empty key does not count. -/
def note (t : Tally) (entry : String × ListedResource) : Tally :=
  if entry.1 = "" then t
  else
    { first := if t.count entry.1 = 0 then t.first ++ [entry] else t.first
      count := Function.update t.count entry.1 (t.count entry.1 + 1) }

/-- The keys that were met. -/
def keys (t : Tally) : List String :=
  t.first.map Prod.fst

/-- The tally of the Planner's list. -/
def ofList (listed : List ListedResource) : Tally :=
  (listed.map fun l => (l.key, l)).foldl note empty

/-- The plan that is made of what was noted, where the keys that were met are gone through in a
given order. -/
def plan (t : Tally) (met : List String) (records : List Resource) (department : String) : Plan :=
  let unique := t.first.filter fun entry => t.count entry.1 == 1
  let active := records.filter fun r => r.isActiveIn department
  { toAdd := (unique.filter fun entry => !(active.map (·.key)).contains entry.1).map Prod.snd
    toDelete := (active.filter fun r => !(unique.map Prod.fst).contains r.key).map (·.id)
    ambiguous := (met.filter fun key => 1 < t.count key).mergeSort fun a b => decide (a ≤ b) }

/-- What is known of a tally of these entries. -/
structure Of (seen : List (String × ListedResource)) (t : Tally) : Prop where
  count : ∀ key, key ≠ "" → t.count key = (seen.map Prod.fst).count key
  mem_keys : ∀ key, key ∈ t.keys ↔ key ≠ "" ∧ key ∈ seen.map Prod.fst
  nodup : t.keys.Nodup
  /-- Of keys that were met once at most all entries are noted. -/
  once : ∀ p : String → Bool,
    (∀ key, p key = true → key ≠ "" ∧ (seen.map Prod.fst).count key ≤ 1) →
    (t.first.filter fun entry => p entry.1) = seen.filter fun entry => p entry.1

theorem Of.empty : Of [] .empty :=
  ⟨fun _ _ => rfl, by simp [Tally.empty, keys], .nil, fun _ _ => rfl⟩

section Notes
variable {seen : List (String × ListedResource)} {t : Tally} {key : String} {l : ListedResource}

theorem count_append (other : String) : ((seen ++ [(key, l)]).map Prod.fst).count other =
    (seen.map Prod.fst).count other + if key = other then 1 else 0 := by
  rw [List.map_append, List.count_append, List.map_singleton, List.count_singleton]
  simp

theorem count_le (other : String) :
    (seen.map Prod.fst).count other ≤ ((seen ++ [(key, l)]).map Prod.fst).count other := by
  rw [count_append]
  exact Nat.le_add_right _ _

theorem mem_append_fst {other : String} :
    other ∈ (seen ++ [(key, l)]).map Prod.fst ↔ other ∈ seen.map Prod.fst ∨ other = key := by
  simp [eq_comm]

/-- An entry that is not noted as the first of its key, because it has none or it was met before. -/
theorem Of.once_append (known : t.Of seen)
    (out : key = "" ∨ 2 ≤ ((seen ++ [(key, l)]).map Prod.fst).count key) (p : String → Bool)
    (single : ∀ other, p other = true →
      other ≠ "" ∧ ((seen ++ [(key, l)]).map Prod.fst).count other ≤ 1) :
    (t.first.filter fun entry => p entry.1) =
      (seen ++ [(key, l)]).filter fun entry => p entry.1 := by
  have fails : ¬ p key = true := by
    intro holds
    obtain ⟨nonempty, le⟩ := single key holds
    rcases out with blank | twice
    · exact nonempty blank
    · omega
  rw [List.filter_append, List.filter_cons_of_neg (by simpa using fails),
    List.filter_nil, List.append_nil]
  exact known.once p fun other holds =>
    ⟨(single other holds).1, (count_le other).trans (single other holds).2⟩

/-- An entry without a key. -/
theorem Of.skip (known : t.Of seen) (l : ListedResource) : t.Of (seen ++ [("", l)]) := by
  refine ⟨fun other nonempty => ?_, fun other => ?_, known.nodup, known.once_append (.inl rfl)⟩
  · rw [count_append, if_neg (Ne.symm nonempty), Nat.add_zero, known.count other nonempty]
  · rw [known.mem_keys, mem_append_fst]
    exact and_congr_right fun nonempty => (or_iff_left nonempty).symm

/-- How often keys were met once an entry has been counted. -/
theorem Of.count_update (known : t.Of seen) (nonempty : key ≠ "") (l : ListedResource)
    (other : String) (named : other ≠ "") :
    Function.update t.count key (t.count key + 1) other =
      ((seen ++ [(key, l)]).map Prod.fst).count other := by
  rw [count_append]
  by_cases same : other = key
  · subst same
    rw [Function.update_self, known.count _ nonempty, if_pos rfl]
  · rw [Function.update_of_ne same, known.count other named, if_neg (Ne.symm same), Nat.add_zero]

/-- The first entry of a key. -/
theorem Of.meet (known : t.Of seen) (nonempty : key ≠ "") (l : ListedResource)
    (new : key ∉ seen.map Prod.fst) :
    Of (seen ++ [(key, l)])
      ⟨t.first ++ [(key, l)], Function.update t.count key (t.count key + 1)⟩ := by
  have keys_append : (t.first ++ [(key, l)]).map Prod.fst = t.keys ++ [key] := by
    rw [List.map_append, List.map_singleton, keys]
  refine ⟨known.count_update nonempty l, fun other => ?_, ?_, fun p single => ?_⟩
  · rw [keys, keys_append, List.mem_append, List.mem_singleton, known.mem_keys, mem_append_fst]
    constructor
    · rintro (⟨named, met⟩ | rfl)
      · exact ⟨named, .inl met⟩
      · exact ⟨nonempty, .inr rfl⟩
    · rintro ⟨named, met | same⟩
      · exact .inl ⟨named, met⟩
      · exact .inr same
  · rw [keys, keys_append]
    refine List.nodup_append.2 ⟨known.nodup, List.nodup_singleton key, ?_⟩
    rintro other met _ last rfl
    rw [List.mem_singleton] at last
    exact new (last ▸ ((known.mem_keys other).1 met).2)
  · rw [List.filter_append, List.filter_append, known.once p fun other holds =>
      ⟨(single other holds).1, (count_le other).trans (single other holds).2⟩]

/-- A further entry of a key. -/
theorem Of.repeated (known : t.Of seen) (nonempty : key ≠ "") (l : ListedResource)
    (met : key ∈ seen.map Prod.fst) :
    Of (seen ++ [(key, l)]) ⟨t.first, Function.update t.count key (t.count key + 1)⟩ := by
  refine ⟨known.count_update nonempty l, fun other => ?_, known.nodup,
    known.once_append (.inr ?_)⟩
  · rw [mem_append_fst]
    refine (known.mem_keys other).trans (and_congr_right fun _ => (or_iff_left_of_imp ?_).symm)
    rintro rfl
    exact met
  · have counted := List.count_pos_iff.2 met
    rw [count_append, if_pos rfl]
    omega

/-- Noting one more entry. -/
theorem Of.note (known : t.Of seen) (entry : String × ListedResource) :
    (t.note entry).Of (seen ++ [entry]) := by
  obtain ⟨key, l⟩ := entry
  by_cases blank : key = ""
  · subst blank
    exact known.skip l
  · rw [Tally.note, if_neg blank]
    by_cases new : key ∈ seen.map Prod.fst
    · have counted := List.count_pos_iff.2 new
      rw [← known.count key blank] at counted
      rw [if_neg (Nat.ne_of_gt counted)]
      exact known.repeated blank l new
    · rw [if_pos (by rw [known.count key blank, List.count_eq_zero]; exact new)]
      exact known.meet blank l new

theorem Of.foldl (known : t.Of seen) (entries : List (String × ListedResource)) :
    (entries.foldl Tally.note t).Of (seen ++ entries) := by
  induction entries generalizing seen t with
  | nil => simpa using known
  | cons entry entries ih => simpa using ih (known.note entry)

end Notes

/-! ## The plan of a tally -/

section Listed
variable {listed : List ListedResource} {records : List Resource} {department : String}

/-- The entries of a list with their keys. -/
def keyed (listed : List ListedResource) : List (String × ListedResource) :=
  listed.map fun l => (l.key, l)

theorem map_fst_keyed (listed : List ListedResource) :
    (keyed listed).map Prod.fst = listed.map (·.key) := by
  rw [keyed, List.map_map]
  rfl

theorem filter_keyed (listed : List ListedResource) (p : String → Bool) :
    ((keyed listed).filter fun entry => p entry.1).map Prod.snd =
      listed.filter fun l => p l.key := by
  rw [keyed, List.filter_map, List.map_map]
  exact List.map_id _

theorem of_ofList (listed : List ListedResource) : (ofList listed).Of (keyed listed) :=
  Of.empty.foldl (keyed listed)

/-- What was met once is what is listed once. -/
theorem filter_first (listed : List ListedResource) :
    ((ofList listed).first.filter fun entry => (ofList listed).count entry.1 == 1) =
      (keyed listed).filter fun entry => Plan.isUnique (listed.map (·.key)) entry.1 := by
  have known := of_ofList listed
  rw [← known.once (Plan.isUnique (listed.map (·.key)))]
  · refine List.filter_congr fun entry mem => ?_
    obtain ⟨nonempty, -⟩ := (known.mem_keys entry.1).1 (List.mem_map_of_mem mem)
    rw [known.count _ nonempty, map_fst_keyed, Plan.isUnique, bne_iff_ne.2 nonempty,
      Bool.true_and]
  · intro key unique
    obtain ⟨nonempty, once⟩ := isUnique_iff.1 unique
    exact ⟨nonempty, by rw [map_fst_keyed, once]⟩

theorem contains_unique (listed : List ListedResource) (key : String) :
    (((keyed listed).filter fun entry => Plan.isUnique (listed.map (·.key)) entry.1).map
      Prod.fst).contains key = Plan.isUnique (listed.map (·.key)) key := by
  rw [Bool.eq_iff_iff, List.contains_iff_mem]
  constructor
  · intro mem
    obtain ⟨entry, unique, rfl⟩ := List.mem_map.1 mem
    exact (List.mem_filter.1 unique).2
  · intro unique
    obtain ⟨l, mem, rfl⟩ := (isUnique_iff.1 unique).exists_listed
    exact List.mem_map.2
      ⟨(l.key, l), List.mem_filter.2 ⟨List.mem_map.2 ⟨l, mem, rfl⟩, unique⟩, rfl⟩

/-- The keys that were met repeatedly are those that are listed repeatedly, in whatever order they
are gone through. -/
theorem mergeSort_filter_met (listed : List ListedResource) {met : List String}
    (all : met.Perm (ofList listed).keys) :
    ((met.filter fun key => 1 < (ofList listed).count key).mergeSort
      fun a b => decide (a ≤ b)) = Plan.repeatedKeys (listed.map (·.key)) := by
  have known := of_ofList listed
  have ascending := Plan.pairwise_lt_mergeSort
    ((all.nodup_iff.2 known.nodup).filter fun key => 1 < (ofList listed).count key)
  refine ascending.eq_of_mem_iff (Plan.ascending_repeatedKeys _) fun key => ?_
  rw [List.mem_mergeSort, List.mem_filter, all.mem_iff, known.mem_keys, map_fst_keyed,
    decide_eq_true_eq, Plan.mem_repeatedKeys]
  constructor
  · rintro ⟨⟨nonempty, -⟩, twice⟩
    rw [known.count key nonempty, map_fst_keyed] at twice
    exact ⟨nonempty, twice⟩
  · rintro ⟨nonempty, twice⟩
    refine ⟨⟨nonempty, List.count_pos_iff.1 (by omega)⟩, ?_⟩
    rw [known.count key nonempty, map_fst_keyed]
    exact twice

/-- The plan that is made in one pass. -/
theorem plan_eq (listed : List ListedResource) (records : List Resource) (department : String)
    {met : List String} (all : met.Perm (ofList listed).keys) :
    (ofList listed).plan met records department = Plan.build listed records department := by
  unfold plan Plan.build
  simp only [filter_first, contains_unique, mergeSort_filter_met listed all, Plan.mk.injEq,
    and_true]
  rw [List.filter_filter, filter_keyed listed fun key =>
    !((records.filter fun r => r.isActiveIn department).map (·.key)).contains key &&
      Plan.isUnique (listed.map (·.key)) key]
  exact List.filter_congr fun l _ => Bool.and_comm _ _

end Listed
end Tally

/-! ## What a plan holds -/

/-- The record stands for a listed resource that is new to a department. -/
structure Resource.Carries (department : String) (createdAt : Timestamp) (l : ListedResource)
    (r : Resource) : Prop where
  key : r.key = l.key
  group : r.group = l.group
  externalId : r.externalId = l.externalId
  displayName : r.displayName = l.displayName
  department : r.department = department
  createdAt : r.createdAt = createdAt
  unharmed : r.errorCode = none
  live : r.isDeleted = false

/-- New records carry the attributes of the listed resources, in the same order. -/
theorem Resource.Made.carries {department : String} {createdAt : Timestamp}
    {l : List ListedResource} {rows : List Resource}
    (made : Resource.Made department createdAt l rows) :
    List.Forall₂ (Resource.Carries department createdAt) l rows := by
  refine List.Forall₂.imp ?_ made
  rintro l r ⟨id, rfl⟩
  exact ⟨Resource.key_ofListed id l department createdAt, rfl, rfl, rfl, rfl, rfl, rfl, rfl⟩

section Holds
variable {listed listed' : List ListedResource} {records records' : List Resource}
  {department : String} {p p' : Plan} {l : ListedResource} {r : Resource}

/-- The department lacks the key: none of its active records has it. -/
def Lacks (records : List Resource) (department : String) (key : String) : Prop :=
  ∀ r ∈ records, r.isActiveIn department = true → r.key ≠ key

/-- What a plan for a department holds. -/
structure Plan.Reconciles (listed : List ListedResource) (records : List Resource)
    (department : String) (p : Plan) : Prop where
  /-- What is added stands in the order of the list, each key once. -/
  inOrder : p.toAdd.Sublist listed
  once : (p.toAdd.map (·.key)).Nodup
  added : ∀ l, l ∈ p.toAdd ↔ l ∈ listed ∧ ListedOnce listed l.key ∧ Lacks records department l.key
  /-- Active records are deleted whose key is not listed once, be it empty or listed repeatedly. -/
  deleted : p.toDelete = (records.filter (·.isStale department listed)).map (·.id)
  ascending : p.ambiguous.Pairwise (· < ·)
  ambiguous : ∀ key, key ∈ p.ambiguous ↔ key ≠ "" ∧ 2 ≤ (listed.map (·.key)).count key
  /-- No key is both added and deleted. -/
  apart : ∀ l ∈ p.toAdd, ∀ r ∈ records, r.isActiveIn department = true → r.id ∈ p.toDelete →
    r.key ≠ l.key

theorem mem_toAdd_build : l ∈ (Plan.build listed records department).toAdd ↔
    l ∈ listed ∧ ListedOnce listed l.key ∧ Lacks records department l.key := by
  simp only [Plan.build, List.mem_filter, Bool.and_eq_true, isUnique_iff, Lacks]
  simp [and_imp]

theorem toDelete_build (listed : List ListedResource) (records : List Resource)
    (department : String) : (Plan.build listed records department).toDelete =
      (records.filter (·.isStale department listed)).map (·.id) := by
  have same (r : Resource) : (!Plan.isUnique (listed.map (·.key)) r.key &&
      r.isActiveIn department) = r.isStale department listed := Bool.and_comm _ _
  simp only [Plan.build, List.filter_filter, same]

theorem reconciles_build (listed : List ListedResource) (records : List Resource)
    (department : String) :
    (Plan.build listed records department).Reconciles listed records department where
  inOrder := List.filter_sublist
  once := nodup_keys_of_once List.filter_sublist fun _ mem => (mem_toAdd_build.1 mem).2.1
  added _ := mem_toAdd_build
  deleted := toDelete_build listed records department
  ascending := Plan.ascending_repeatedKeys _
  ambiguous _ := Plan.mem_repeatedKeys
  apart _ added r mem active _ := (mem_toAdd_build.1 added).2.2 r mem active

/-- What is added are the entries of the list that are added, in their order. -/
theorem Plan.Reconciles.toAdd_eq (plan : p.Reconciles listed records department)
    (same : ∀ l, l ∈ p.toAdd ↔ l ∈ p'.toAdd) :
    p.toAdd = listed.filter fun l => l ∈ p'.toAdd := by
  have part : p.toAdd.Sublist (listed.filter fun l => l ∈ p'.toAdd) := by
    have all : (p.toAdd.filter fun l => l ∈ p'.toAdd) = p.toAdd :=
      List.filter_eq_self.2 fun l mem => by simpa using (same l).1 mem
    exact all ▸ plan.inOrder.filter _
  have kept : ∀ l ∈ listed.filter (fun l => l ∈ p'.toAdd), l ∈ p.toAdd := fun l mem =>
    (same l).2 (by simpa using (List.mem_filter.1 mem).2)
  have nodup : (listed.filter fun l => l ∈ p'.toAdd).Nodup :=
    (nodup_keys_of_once List.filter_sublist fun l mem =>
      ((plan.added l).1 (kept l mem)).2.1).of_map
  exact part.eq_of_length_le (nodup.length_le_of_subset kept)

/-- There is one plan for a list and the records of a department. -/
theorem Plan.Reconciles.eq (plan : p.Reconciles listed records department)
    (plan' : p'.Reconciles listed records department) : p = p' := by
  have toAdd : p.toAdd = p'.toAdd :=
    (plan.toAdd_eq fun l => (plan.added l).trans (plan'.added l).symm).trans
      (plan'.toAdd_eq fun _ => Iff.rfl).symm
  have ambiguous : p.ambiguous = p'.ambiguous :=
    plan.ascending.eq_of_mem_iff plan'.ascending fun key =>
      (plan.ambiguous key).trans (plan'.ambiguous key).symm
  have toDelete := plan.deleted.trans plan'.deleted.symm
  cases p
  cases p'
  simp_all only

/-! ## Other orders -/

theorem listedOnce_of_perm (perm : listed'.Perm listed) (key : String) :
    ListedOnce listed' key ↔ ListedOnce listed key := by
  rw [ListedOnce, ListedOnce, (perm.map (·.key)).count_eq]

theorem isUnique_of_perm (perm : listed'.Perm listed) (key : String) :
    Plan.isUnique (listed'.map (·.key)) key = Plan.isUnique (listed.map (·.key)) key := by
  rw [Bool.eq_iff_iff, isUnique_iff, isUnique_iff, listedOnce_of_perm perm]

/-- Of a list in another order the plan differs in the order of what is added only. -/
theorem build_perm_listed (perm : listed'.Perm listed) (records : List Resource)
    (department : String) :
    (Plan.build listed' records department).toAdd.Perm
        (Plan.build listed records department).toAdd ∧
      (Plan.build listed' records department).toDelete =
        (Plan.build listed records department).toDelete ∧
      (Plan.build listed' records department).ambiguous =
        (Plan.build listed records department).ambiguous := by
  refine ⟨?_, ?_, ?_⟩
  · simp only [Plan.build, isUnique_of_perm perm]
    exact perm.filter _
  · simp only [Plan.build, isUnique_of_perm perm]
  · refine (Plan.ascending_repeatedKeys _).eq_of_mem_iff
      (Plan.ascending_repeatedKeys _) fun key => ?_
    simp only [Plan.build, Plan.mem_repeatedKeys, (perm.map (·.key)).count_eq]

/-- Of records in another order the plan differs in the order of what is deleted only. -/
theorem build_perm_records (perm : records'.Perm records) (listed : List ListedResource)
    (department : String) :
    (Plan.build listed records' department).toAdd =
        (Plan.build listed records department).toAdd ∧
      (Plan.build listed records' department).toDelete.Perm
        (Plan.build listed records department).toDelete ∧
      (Plan.build listed records' department).ambiguous =
        (Plan.build listed records department).ambiguous := by
  have active := (perm.filter (·.isActiveIn department)).map (·.key)
  refine ⟨?_, ?_, rfl⟩
  · refine List.filter_congr fun l _ => ?_
    congr 2
    rw [Bool.eq_iff_iff, List.contains_iff_mem, List.contains_iff_mem, active.mem_iff]
  · rw [toDelete_build, toDelete_build]
    exact (perm.filter _).map _

end Holds

/-! ## The plan -/

namespace Plan
open Program (Runs)

/-- As many identifiers as are asked for may be issued, whichever they are. -/
theorem runs_newRecords_issuing (department : String) (createdAt : Timestamp) (s : Simulation.Store)
    {ids : List Uuid} {l : List ListedResource} (enough : ids.length = l.length) :
    Runs (Reconciliation.newRecords department createdAt l) s
      (ids.map fun id => ⟨s, .freshId, id⟩)
      (.ok (List.zipWith (fun id listed => .ofListed id listed department createdAt) ids l)) s := by
  induction ids generalizing l with
  | nil =>
    obtain rfl := List.length_eq_zero_iff.1 enough.symm
    exact .done _ _
  | cons id ids ih =>
    obtain ⟨listed, l, rfl⟩ := List.exists_cons_of_length_eq_add_one enough.symm
    have rest := ih (Nat.succ.inj enough)
    refine Service.runs_lift_bind_iff.2 ⟨id, s, [_], _, rfl, .ask rfl (.done _ _), ?_⟩
    refine Service.runs_bind_iff.2 (.inr ⟨_, s, _, [], (List.append_nil _).symm, rest, ?_⟩)
    exact Service.runs_pure_iff.2 ⟨rfl, rfl, rfl⟩

theorem issued_map (s : Simulation.Store) (ids : List Uuid) :
    issued (ids.map fun id => ⟨s, .freshId, id⟩) = ids := by
  rw [issued, List.filterMap_map]
  exact List.filterMap_some

/-- The plan is the only one that holds what a plan for the department is to hold. It is what one
pass over the list makes, in whatever order the keys are gone through; the records of what it adds
carry the attributes of the list and the identifiers that are issued, whichever they are; and the
orders of the list and of the records matter for the order of what is added and deleted only. -/
theorem exact_build (listed : List ListedResource) (records : List Resource) (department : String)
    (createdAt : Timestamp) :
    (∀ p : Plan, p.Reconciles listed records department ↔ p = build listed records department) ∧
    (∀ met, met.Perm (Tally.ofList listed).keys →
      (Tally.ofList listed).plan met records department = build listed records department) ∧
    (∀ s t result after, Runs (Reconciliation.newRecords department createdAt
        (build listed records department).toAdd) s t result after →
      after = s ∧ ∃ rows, result = .ok rows ∧ rows.map (·.id) = issued t ∧
        List.Forall₂ (Resource.Carries department createdAt)
          (build listed records department).toAdd rows) ∧
    (∀ s ids, ids.length = (build listed records department).toAdd.length →
      ∃ t result, Runs (Reconciliation.newRecords department createdAt
        (build listed records department).toAdd) s t result s ∧ issued t = ids) ∧
    (∀ listed' : List ListedResource, listed'.Perm listed →
      (build listed' records department).toAdd.Perm (build listed records department).toAdd ∧
      (build listed' records department).toDelete = (build listed records department).toDelete ∧
      (build listed' records department).ambiguous =
        (build listed records department).ambiguous) ∧
    ∀ records' : List Resource, records'.Perm records →
      (build listed records' department).toAdd = (build listed records department).toAdd ∧
      (build listed records' department).toDelete.Perm
        (build listed records department).toDelete ∧
      (build listed records' department).ambiguous =
        (build listed records department).ambiguous := by
  have right := reconciles_build listed records department
  refine ⟨fun p => ⟨fun plan => plan.eq right, ?only⟩, fun met all => Tally.plan_eq _ _ _ all,
    ?carried, ?issuing, fun _ perm => build_perm_listed perm records department,
    fun _ perm => build_perm_records perm listed department⟩
  case only =>
    rintro rfl
    exact right
  case carried =>
    intro s t result after run
    obtain ⟨same, rows, ok, made, ids⟩ := Reconciliation.runs_newRecords run
    exact ⟨same, rows, ok, ids, made.carries⟩
  case issuing =>
    intro s ids enough
    exact ⟨_, _, runs_newRecords_issuing department createdAt s enough, issued_map s ids⟩

/-- Cleo is added, whose record is deleted; Bob's record goes, since he is listed twice, and the one
without an address. Neither a list nor records that are turned round change that. -/
theorem exact_build_staff :
    let records := Simulation.World.staff.store.resources
    let p := build Simulation.World.staffList records "rooms"
    p.Reconciles Simulation.World.staffList records "rooms" ∧
      p.toAdd = [⟨"\tCleo", none, some "PR-17", none⟩] ∧ p.toDelete = [.ofNat 2, .ofNat 5] ∧
      (Tally.ofList Simulation.World.staffList).plan
        (Tally.ofList Simulation.World.staffList).keys records "rooms" = p ∧
      (build Simulation.World.staffList.reverse records "rooms").toDelete =
        [.ofNat 2, .ofNat 5] ∧
      (build Simulation.World.staffList records.reverse "rooms").toAdd =
        [⟨"\tCleo", none, some "PR-17", none⟩] ∧
      ∃ t rows after, Runs (Reconciliation.newRecords "rooms" (Simulation.World.atSecond 2000)
          p.toAdd) Simulation.World.staff.store t (.ok rows) after ∧
        rows.map (·.id) = [.ofNat 7] ∧
        List.Forall₂ (Resource.Carries "rooms" (Simulation.World.atSecond 2000)) p.toAdd rows := by
  intro records p
  obtain ⟨only, pass, carried, issuing, list, rows⟩ := exact_build Simulation.World.staffList
    records "rooms" (Simulation.World.atSecond 2000)
  have toAdd : p.toAdd = [⟨"\tCleo", none, some "PR-17", none⟩] := by decide +kernel
  have toDelete : p.toDelete = [.ofNat 2, .ofNat 5] := by decide +kernel
  obtain ⟨-, reversed, -⟩ := list _ (List.reverse_perm _)
  obtain ⟨reversed', -, -⟩ := rows _ (List.reverse_perm _)
  obtain ⟨t, _, run, ids⟩ := issuing Simulation.World.staff.store [.ofNat 7]
    (congrArg List.length toAdd).symm
  obtain ⟨-, rows, rfl, named, made⟩ := carried _ _ _ _ run
  exact ⟨(only p).2 rfl, toAdd, toDelete, pass _ (.refl _), reversed.trans toDelete,
    reversed'.trans toAdd, t, rows, _, run, named.trans ids, made⟩

end Plan
end CalendarSync
