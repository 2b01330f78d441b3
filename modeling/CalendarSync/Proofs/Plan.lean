import CalendarSync.Reconciliation.Plan
import CalendarSync.Simulation.Store
import Mathlib.Data.List.DropRight
import Mathlib.Data.List.Nodup

/-!
# What a plan changes

A plan names the listed resources that a department lacks and the records that the list does not
keep alive. Applied to a table whose rows have identifiers of their own, it leaves the department
with the keys that are listed exactly once, and then there is nothing left to plan.
-/

namespace CalendarSync
set_option autoImplicit false
open Simulation (Store)

/-! ## Mail keys -/

namespace Text

theorem trimChars_eq_rdropWhile (cs : List Char) :
    trimChars cs = (cs.dropWhile isBlank).rdropWhile isBlank := rfl

/-- Cutting blanks off the end uncovers none at the start. -/
theorem dropWhile_trimChars (cs : List Char) :
    (trimChars cs).dropWhile isBlank = trimChars cs := by
  rw [List.dropWhile_eq_self_iff]
  intro nonempty
  have start := List.dropWhile_eq_self_iff.1 (List.dropWhile_idempotent isBlank cs)
  have cut : trimChars cs <+: cs.dropWhile isBlank := List.rdropWhile_prefix isBlank _
  rw [cut.getElem nonempty]
  exact start _

theorem trimChars_trimChars (cs : List Char) : trimChars (trimChars cs) = trimChars cs := by
  rw [trimChars_eq_rdropWhile (trimChars cs), dropWhile_trimChars, trimChars_eq_rdropWhile,
    List.rdropWhile_idempotent]

theorem trim_trim (s : String) : trim (trim s) = trim s := by
  simp only [trim, String.toList_ofList, trimChars_trimChars]

end Text

/-- A record of a listed resource has the key under which the resource is listed. -/
theorem Resource.key_ofListed (id : Uuid) (listed : ListedResource) (department : String)
    (createdAt : Timestamp) :
    (Resource.ofListed id listed department createdAt).key = listed.key := by
  simp only [Resource.key, ListedResource.key, Resource.ofListed, mailKey, Text.trim_trim]

/-- The key is not empty, and the Planner's list holds it exactly once. -/
def ListedOnce (listed : List ListedResource) (key : String) : Prop :=
  key ≠ "" ∧ (listed.map (·.key)).count key = 1

theorem isUnique_iff {listed : List ListedResource} {key : String} :
    Plan.isUnique (listed.map (·.key)) key = true ↔ ListedOnce listed key := by
  simp [Plan.isUnique, ListedOnce]

theorem ListedOnce.exists_listed {listed : List ListedResource} {key : String}
    (once : ListedOnce listed key) : ∃ l ∈ listed, l.key = key := by
  obtain ⟨-, count⟩ := once
  have mem : key ∈ listed.map (·.key) := List.count_pos_iff.1 (by omega)
  simpa using mem

/-- A part of a list whose members have keys that are listed once holds no key twice. -/
theorem nodup_keys_of_once {listed part : List ListedResource} (sub : part.Sublist listed)
    (once : ∀ l ∈ part, ListedOnce listed l.key) : (part.map (·.key)).Nodup := by
  rw [List.nodup_iff_count_le_one]
  intro key
  by_cases named : key ∈ part.map (·.key)
  · obtain ⟨l, mem, rfl⟩ := List.mem_map.1 named
    exact (once l mem).2 ▸ (sub.map _).count_le l.key
  · rw [List.count_eq_zero.2 named]
    exact Nat.zero_le 1

namespace Resource
variable {r : Resource} {department : String} {listed : List ListedResource} {instant : Timestamp}

theorem isActiveIn_iff :
    r.isActiveIn department = true ↔ r.department = department ∧ r.isDeleted = false := by
  simp [isActiveIn]

/-- The record is active in the department, but the list does not keep it alive. -/
def isStale (department : String) (listed : List ListedResource) (r : Resource) : Bool :=
  r.isActiveIn department && !Plan.isUnique (listed.map (·.key)) r.key

theorem isStale_iff :
    r.isStale department listed = true ↔
      r.isActiveIn department = true ∧ ¬ ListedOnce listed r.key := by
  rw [← isUnique_iff]
  simp [isStale]

theorem not_isStale (once : ListedOnce listed r.key) : ¬ r.isStale department listed = true :=
  fun stale => (isStale_iff.1 stale).2 once

/-- Gives a stale record a deletion time. -/
def retire (department : String) (listed : List ListedResource) (instant : Timestamp)
    (r : Resource) : Resource :=
  if r.isStale department listed then { r with deletedAt := some instant } else r

theorem retire_of_not_isStale (alive : ¬ r.isStale department listed = true) :
    r.retire department listed instant = r := if_neg alive

@[simp] theorem retire_id : (r.retire department listed instant).id = r.id := by
  unfold retire
  split <;> rfl

theorem isDeleted_retire :
    (r.retire department listed instant).isDeleted =
      (r.isDeleted || r.isStale department listed) := by
  unfold retire
  cases stale : r.isStale department listed <;> simp [isDeleted]

/-- The records of a department that stay active are those that the list keeps alive. -/
theorem isActiveIn_retire :
    (r.retire department listed instant).isActiveIn department = true ↔
      r.isActiveIn department = true ∧ ListedOnce listed r.key := by
  by_cases stale : r.isStale department listed = true
  · have gone : (r.retire department listed instant).isDeleted = true := by
      rw [isDeleted_retire, stale, Bool.or_true]
    have dropped := (isStale_iff.1 stale).2
    simp [isActiveIn_iff, gone, dropped]
  · rw [retire_of_not_isStale stale]
    rw [isStale_iff] at stale
    tauto

end Resource

/-! ## Plans for tables -/

/-- The plan for a department, given the Planner's list. -/
def Simulation.Store.plan (s : Store) (department : String) (listed : List ListedResource) : Plan :=
  Plan.build listed (s.resourcesOf department) department

/-- The active records of the department have exactly the keys that are listed once. -/
def Simulation.Store.Settled (s : Store) (department : String) (listed : List ListedResource) :
    Prop :=
  ∀ key, (∃ r ∈ s.resources, r.isActiveIn department = true ∧ r.key = key) ↔ ListedOnce listed key

section Plans
variable {s : Store} {department : String} {listed : List ListedResource}

theorem filter_resourcesOf (s : Store) (department : String) :
    (s.resourcesOf department).filter (·.isActiveIn department) =
      s.resources.filter (·.isActiveIn department) := by
  rw [Store.resourcesOf, List.filter_filter]
  congr 1
  funext r
  simp only [Resource.isActiveIn]
  cases r.department == department <;> simp

theorem toDelete_plan (s : Store) (department : String) (listed : List ListedResource) :
    (s.plan department listed).toDelete =
      (s.resources.filter (·.isStale department listed)).map (·.id) := by
  have same (r : Resource) : (!Plan.isUnique (listed.map (·.key)) r.key &&
      r.isActiveIn department) = r.isStale department listed := Bool.and_comm _ _
  simp only [Store.plan, Plan.build, filter_resourcesOf, List.filter_filter, same]

theorem mem_toAdd_plan {l : ListedResource} :
    l ∈ (s.plan department listed).toAdd ↔ l ∈ listed ∧ ListedOnce listed l.key ∧
      ∀ r ∈ s.resources, r.isActiveIn department = true → r.key ≠ l.key := by
  simp only [Store.plan, Plan.build, filter_resourcesOf, List.mem_filter, Bool.and_eq_true,
    isUnique_iff]
  simp [and_imp]

/-- No two resources that are to be added have one key. -/
theorem nodup_toAdd_plan (s : Store) (department : String) (listed : List ListedResource) :
    ((s.plan department listed).toAdd.map (·.key)).Nodup :=
  nodup_keys_of_once List.filter_sublist fun _ mem => (mem_toAdd_plan.1 mem).2.1

/-- There is nothing to plan for a department that is settled, and only for such a one. -/
theorem isEmpty_plan_iff :
    (s.plan department listed).isEmpty = true ↔ s.Settled department listed := by
  have empty : (s.plan department listed).isEmpty = true ↔
      (s.plan department listed).toAdd = [] ∧ (s.plan department listed).toDelete = [] := by
    simp [Plan.isEmpty]
  rw [empty, toDelete_plan, List.map_eq_nil_iff]
  simp only [List.eq_nil_iff_forall_not_mem, mem_toAdd_plan, List.mem_filter, Resource.isStale_iff]
  constructor
  · rintro ⟨noAdd, noDelete⟩ key
    constructor
    · rintro ⟨r, mem, active, rfl⟩
      by_contra other
      exact noDelete r ⟨mem, active, other⟩
    · intro once
      obtain ⟨l, mem, rfl⟩ := once.exists_listed
      by_contra missing
      exact noAdd l ⟨mem, once, fun r mem active same => missing ⟨r, mem, active, same⟩⟩
  · intro settled
    constructor
    · rintro l ⟨-, once, missing⟩
      obtain ⟨r, mem, active, same⟩ := (settled l.key).2 once
      exact missing r mem active same
    · rintro r ⟨mem, active, other⟩
      exact other ((settled r.key).1 ⟨r, mem, active, rfl⟩)

end Plans

/-! ## Applying a plan -/

/-- The rows are records of the resources, in the same order. -/
def Resource.Made (department : String) (createdAt : Timestamp) :
    List ListedResource → List Resource → Prop :=
  List.Forall₂ fun l r => ∃ id, r = .ofListed id l department createdAt

section Applying
variable {s : Store} {department : String} {listed : List ListedResource}
  {createdAt instant : Timestamp} {rows : List Resource} {l : List ListedResource}

theorem Resource.Made.keys (made : Resource.Made department createdAt l rows) :
    rows.map (·.key) = l.map (·.key) := by
  induction made with
  | nil => rfl
  | cons made _ ih =>
    obtain ⟨id, rfl⟩ := made
    rw [List.map_cons, List.map_cons, ih, Resource.key_ofListed]

theorem Resource.Made.isActiveIn (made : Resource.Made department createdAt l rows) :
    ∀ r ∈ rows, r.isActiveIn department = true := by
  induction made with
  | nil => simp
  | cons made _ ih =>
    obtain ⟨id, rfl⟩ := made
    refine List.forall_mem_cons.2 ⟨?_, ih⟩
    simp [Resource.isActiveIn_iff, Resource.ofListed, Resource.isDeleted]

/-- New records have keys that are listed once and that the department lacks. -/
theorem Resource.Made.missing
    (made : Resource.Made department createdAt (s.plan department listed).toAdd rows) :
    ∀ r ∈ rows, ListedOnce listed r.key ∧
      ∀ q ∈ s.resources, q.isActiveIn department = true → q.key ≠ r.key := by
  intro r mem
  have known : r.key ∈ rows.map (·.key) := List.mem_map_of_mem mem
  rw [made.keys] at known
  obtain ⟨l, lacking, same⟩ := List.mem_map.1 known
  exact same ▸ (mem_toAdd_plan.1 lacking).2

/-- Where rows have identifiers of their own, a plan deletes the stale ones only. -/
theorem mem_toDelete_plan {r : Resource} (own : (s.resources.map (·.id)).Nodup)
    (mem : r ∈ s.resources) :
    r.id ∈ (s.plan department listed).toDelete ↔ r.isStale department listed = true := by
  rw [toDelete_plan]
  constructor
  · intro named
    obtain ⟨q, listed, same⟩ := List.mem_map.1 named
    obtain ⟨mem', stale⟩ := List.mem_filter.1 listed
    obtain rfl := List.inj_on_of_nodup_map own mem' mem same
    exact stale
  · intro stale
    exact List.mem_map_of_mem (List.mem_filter.2 ⟨mem, stale⟩)

/-- The table after a plan has been applied: stale rows are retired, and the new ones come last. -/
theorem resources_apply (distinct : (s.resources.map (·.id) ++ rows.map (·.id)).Nodup) :
    ((s.insertResources rows).deleteResources (s.plan department listed).toDelete
        instant).resources =
      s.resources.map (·.retire department listed instant) ++ rows := by
  obtain ⟨own, -, apart⟩ := List.nodup_append.1 distinct
  simp only [Store.insertResources, Store.deleteResources, List.map_append]
  congr 1
  · refine List.map_congr_left fun r mem => ?_
    simp only [List.contains_iff_mem, mem_toDelete_plan own mem, Resource.retire]
  · refine (List.map_congr_left fun r mem => if_neg fun named => ?_).trans (List.map_id rows)
    rw [List.contains_iff_mem, toDelete_plan] at named
    obtain ⟨q, stale, same⟩ := List.mem_map.1 named
    exact apart _ (List.mem_map_of_mem (List.mem_filter.1 stale).1) _ (List.mem_map_of_mem mem) same

/-- A department to which its plan has been applied is settled. -/
theorem settled_apply
    (made : Resource.Made department createdAt (s.plan department listed).toAdd rows)
    {after : Store}
    (table : after.resources = s.resources.map (·.retire department listed instant) ++ rows) :
    after.Settled department listed := by
  intro key
  rw [table]
  constructor
  · rintro ⟨r, mem, active, rfl⟩
    obtain mem | mem := List.mem_append.1 mem
    · obtain ⟨q, -, rfl⟩ := List.mem_map.1 mem
      obtain ⟨active', once⟩ := Resource.isActiveIn_retire.1 active
      rwa [Resource.retire_of_not_isStale (Resource.not_isStale once)]
    · exact (made.missing r mem).1
  · intro once
    by_cases known : ∃ r ∈ s.resources, r.isActiveIn department = true ∧ r.key = key
    · obtain ⟨r, mem, active, rfl⟩ := known
      refine ⟨r, List.mem_append_left _ (List.mem_map.2 ⟨r, mem, ?_⟩), active, rfl⟩
      exact Resource.retire_of_not_isStale (Resource.not_isStale once)
    · obtain ⟨l, mem, rfl⟩ := once.exists_listed
      have lacking : l ∈ (s.plan department listed).toAdd :=
        mem_toAdd_plan.2 ⟨mem, once, fun r mem active same => known ⟨r, mem, active, same⟩⟩
      have named : l.key ∈ rows.map (·.key) := made.keys ▸ List.mem_map_of_mem lacking
      obtain ⟨r, new, same⟩ := List.mem_map.1 named
      exact ⟨r, List.mem_append_right _ new, made.isActiveIn r new, same⟩

/-- The records that a plan deletes are the rows that get a deletion time. -/
theorem length_toDelete_plan (rows : List Resource) :
    (s.plan department listed).toDelete.length =
      (s.resources.zip (s.resources.map (·.retire department listed instant) ++ rows)).countP
        fun p => !p.1.isDeleted && p.2.isDeleted := by
  rw [toDelete_plan, List.length_map, ← List.countP_eq_length_filter]
  induction s.resources with
  | nil => rfl
  | cons r rest ih =>
    have now : (!r.isDeleted && (r.retire department listed instant).isDeleted) =
        r.isStale department listed := by
      rw [Resource.isDeleted_retire]
      cases deleted : r.isDeleted <;> simp [Resource.isStale, Resource.isActiveIn, deleted]
    rw [List.map_cons, List.cons_append, List.zip_cons_cons, List.countP_cons, List.countP_cons,
      ih, now]

end Applying
end CalendarSync
