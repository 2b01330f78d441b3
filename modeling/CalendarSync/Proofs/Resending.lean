import CalendarSync.Proofs.Clearing
import CalendarSync.Proofs.Growth

/-!
# Resends

Recording a transient failure and proposing the attempt again are two requests to the storage. If the
first one fails the attempt goes on waiting. If only the second one fails the attempt is closed and
nothing takes its place. Here no request to the storage is trusted, so that all that is known of a
cycle is what it asked for.
-/

namespace CalendarSync
set_option autoImplicit false
open Program Simulation

variable {s after : Store} {t t' : List Moment} {a b r : Attempt}
  {todo todo' resent resent' : List Attempt}

theorem eq_of_length_le_one {α : Type} {l : List α} {x y : α} (short : l.length ≤ 1) (hx : x ∈ l)
    (hy : y ∈ l) : x = y := by
  match l, short with
  | [z], _ => rw [List.mem_singleton.1 hx, List.mem_singleton.1 hy]

/-! ## What the storage is asked to add -/

/-- What an attempt is after: an operation on the item of an event, with a window. -/
def Attempt.aim (a : Attempt) : Uuid × Operation × Window :=
  (a.event, a.operation, a.window)

theorem Attempt.Repeats.aim (repeats : a.Repeats r) : r.aim = a.aim := by
  obtain ⟨id, createdAt, rfl⟩ := repeats
  rfl

theorem Attempt.map_aim_of_repeats {more : List Attempt}
    (repeated : List.Forall₂ Attempt.Repeats todo more) : more.map aim = todo.map aim := by
  induction repeated with
  | nil => rfl
  | cons repeats _ ih => rw [List.map_cons, List.map_cons, repeats.aim, ih]

theorem Attempt.exists_of_repeats {more : List Attempt}
    (repeated : List.Forall₂ Attempt.Repeats todo more) (mem : a ∈ todo) :
    ∃ r ∈ more, a.Repeats r := by
  induction repeated with
  | nil => cases mem
  | @cons b r _ _ repeats _ ih =>
    rcases List.mem_cons.1 mem with rfl | mem
    · exact ⟨r, List.mem_cons_self, repeats⟩
    · obtain ⟨r', listed, repeats'⟩ := ih mem
      exact ⟨r', List.mem_cons_of_mem _ listed, repeats'⟩

/-- Something waits that is after the same as an attempt. -/
def Simulation.Store.Owes (s : Store) (a : Attempt) : Prop :=
  ∃ b ∈ s.attempts, b.isPending = true ∧ b.aim = a.aim

/-- No other attempt that waits is after the same. -/
def Simulation.Store.Lone (s : Store) (a : Attempt) : Prop :=
  ∀ b ∈ s.attempts, b.isPending = true → b.aim = a.aim → b = a

instance (s : Store) (a : Attempt) : Decidable (s.Owes a) :=
  inferInstanceAs (Decidable (∃ b ∈ s.attempts, b.isPending = true ∧ b.aim = a.aim))

instance (s : Store) (a : Attempt) : Decidable (s.Lone a) :=
  inferInstanceAs (Decidable (∀ b ∈ s.attempts, b.isPending = true → b.aim = a.aim → b = a))

/-- The attempt that the storage is asked to add, whether it takes it or not. -/
def Moment.offered? : Moment → Option Attempt
  | ⟨_, .insertAttempt a, _⟩ => some a
  | _ => none

theorem Moment.Idle.offered? {m : Moment} (idle : m.Idle) : m.offered? = none := by
  obtain ⟨store, request, answer⟩ := m
  cases request with
  | insertAttempt a => cases idle
  | _ => rfl

/-- What the storage takes was offered to it, and it did not fail. -/
theorem Moment.added?_eq_some_iff {m : Moment} :
    m.added? = some a ↔ m.offered? = some a ∧ m.Stored := by
  obtain ⟨store, request, answer⟩ := m
  cases request with
  | insertAttempt b =>
    cases answer <;> simp [added?, offered?, Stored, fault?]
  | _ => simp [added?, offered?]

/-- The attempts that the storage is asked to add, in order. -/
def offers (t : List Moment) : List Attempt :=
  t.filterMap Moment.offered?

theorem offers_append (t t' : List Moment) : offers (t ++ t') = offers t ++ offers t' :=
  List.filterMap_append

theorem offers_of_idle (idle : ∀ m ∈ t, m.Idle) : offers t = [] :=
  List.filterMap_eq_nil_iff.2 fun m mem => (idle m mem).offered?

theorem closings_of_idle (idle : ∀ m ∈ t, m.Idle) : closings t = [] :=
  List.filterMap_eq_nil_iff.2 fun m mem => by rw [(idle m mem).leavesAttempts.1]; rfl

/-- The storage refused to add an attempt again. -/
def Refused (t : List Moment) (a : Attempt) : Prop :=
  ∃ m ∈ t, ¬ m.Stored ∧ ∃ r, m.offered? = some r ∧ a.Repeats r

instance (a r : Attempt) : Decidable (a.Repeats r) :=
  decidable_of_iff (r = a.again r.id a.operation r.createdAt)
    ⟨fun same => ⟨_, _, same⟩, by rintro ⟨id, createdAt, rfl⟩; rfl⟩

instance (t : List Moment) (a : Attempt) : Decidable (Refused t a) :=
  decidable_of_iff (∃ m ∈ t, ¬ m.Stored ∧ ∃ r ∈ m.offered?, a.Repeats r) Iff.rfl

/-- Some of the attempts of a trace, each one closed and then offered again, in order. -/
structure Resends (todo resent : List Attempt) (t : List Moment) : Prop where
  among : resent.Sublist todo
  offered : List.Forall₂ Attempt.Repeats resent (offers t)
  closed : ∀ a ∈ resent, a.id ∈ closings t

namespace Resends

theorem mono (resends : Resends todo resent t) (more : todo.Sublist todo') :
    Resends todo' resent t :=
  ⟨resends.among.trans more, resends.offered, resends.closed⟩

theorem of_offers_eq_nil (none : offers t = []) : Resends [] [] t :=
  ⟨.slnil, by rw [none]; exact .nil, by simp⟩

theorem append (first : Resends todo resent t) (second : Resends todo' resent' t') :
    Resends (todo ++ todo') (resent ++ resent') (t ++ t') := by
  refine ⟨first.among.append second.among, ?_, fun a mem => ?_⟩
  · rw [offers_append]
    exact List.rel_append first.offered second.offered
  · rw [closings_append, List.mem_append]
    exact (List.mem_append.1 mem).imp (first.closed a) (second.closed a)

/-- What is offered is after the same as what it repeats. -/
theorem map_aim (resends : Resends todo resent t) :
    (offers t).map Attempt.aim = resent.map Attempt.aim :=
  Attempt.map_aim_of_repeats resends.offered

/-- What is offered repeats an attempt that is after the same. -/
theorem exists_of_offered {m : Moment} (resends : Resends todo resent t) (mem : m ∈ t)
    (offered : m.offered? = some r) : ∃ a ∈ resent, a.aim = r.aim := by
  have listed : r.aim ∈ (offers t).map Attempt.aim :=
    List.mem_map_of_mem (List.mem_filterMap.2 ⟨m, mem, offered⟩)
  rw [resends.map_aim] at listed
  exact List.mem_map.1 listed

theorem exists_offer (resends : Resends todo resent t) (mem : a ∈ resent) :
    ∃ m ∈ t, ∃ r, m.offered? = some r ∧ a.Repeats r := by
  obtain ⟨r, listed, repeats⟩ := Attempt.exists_of_repeats resends.offered mem
  obtain ⟨m, here, offered⟩ := List.mem_filterMap.1 listed
  exact ⟨m, here, r, offered, repeats⟩

/-- Where one attempt only is after something, this is offered at most once. -/
theorem eq_of_offered {m m' : Moment} {r' : Attempt} (resends : Resends todo resent t)
    (distinct : todo.Nodup) (lone : ∀ b ∈ todo, b.aim = a.aim → b = a) (mem : m ∈ t)
    (mem' : m' ∈ t) (offered : m.offered? = some r) (offered' : m'.offered? = some r')
    (same : r.aim = a.aim) (same' : r'.aim = a.aim) : m = m' := by
  have once : t.countP (fun m => (m.offered?.map fun r => r.aim == a.aim).getD false) ≤ 1 :=
    calc t.countP (fun m => (m.offered?.map fun r => r.aim == a.aim).getD false)
      _ = (offers t).countP (fun r => r.aim == a.aim) := List.countP_filterMap.symm
      _ = ((offers t).map Attempt.aim).count a.aim := by rw [List.count, List.countP_map]; rfl
      _ = (resent.map Attempt.aim).count a.aim := by rw [resends.map_aim]
      _ = resent.countP (fun b => b.aim == a.aim) := by rw [List.count, List.countP_map]; rfl
      _ ≤ resent.countP (fun b => b == a) := List.countP_mono_left fun b listed aim => by
          simpa using lone b (resends.among.subset listed) (by simpa using aim)
      _ ≤ 1 := List.nodup_iff_count_le_one.1 (distinct.sublist resends.among) a
  rw [List.countP_eq_length_filter] at once
  refine eq_of_length_le_one once (List.mem_filter.2 ⟨mem, ?_⟩) (List.mem_filter.2 ⟨mem', ?_⟩)
  · simp [offered, same]
  · simp [offered', same']

end Resends

/-! ## What a cycle asks for -/

namespace Cycle
variable {policy : CallPolicy} {op : Operation} {group : List Attempt}

/-- Each attempt with a transient result is closed and offered again, or neither. -/
theorem exists_resends_record {call : Uuid} {results : List ItemResult} {syncedAt : Timestamp}
    {progress next : Progress} (once : (group.map (·.id)).Nodup)
    (run : Runs (group.foldlM (recordOne call results syncedAt) progress) s t next after) :
    ∃ resent, Resends group resent t ∧ ∀ a ∈ group,
      (ItemResult.lastFor? results a.id).any ItemResult.isTransient = true →
        a.id ∈ closings t → a ∈ resent := by
  induction group generalizing s t progress with
  | nil =>
    obtain ⟨rfl, -, -⟩ := runs_pure_iff.1 run
    exact ⟨[], .of_offers_eq_nil rfl, by simp⟩
  | cons a group ih =>
    rw [List.foldlM_cons] at run
    obtain ⟨middle, s₁, first, rest, rfl, head, tail⟩ := runs_bind_iff.1 run
    rw [List.map_cons, List.nodup_cons] at once
    obtain ⟨resent, resends, complete⟩ := ih once.2 tail
    obtain ⟨resent₁, resends₁, complete₁⟩ : ∃ resent, Resends [a] resent first ∧
        ((ItemResult.lastFor? results a.id).any ItemResult.isTransient = true →
          a.id ∈ closings first → a ∈ resent) := by
      have recording := runs_recordOne head
      generalize middle.recorded = recorded at recording
      cases recording with
      | unanswered unknown =>
        exact ⟨[], .mono (.of_offers_eq_nil rfl) (List.nil_sublist _), by simp [unknown]⟩
      | lost e found =>
        exact ⟨[], .mono (.of_offers_eq_nil rfl) (List.nil_sublist _),
          by simp [closings, Moment.recorded?]⟩
      | closed found wrote lasting =>
        refine ⟨[], .mono (.of_offers_eq_nil rfl) (List.nil_sublist _), fun transient => ?_⟩
        rw [Attempt.isTransient_complete_completion] at lasting
        simp [found, lasting] at transient
      | again found wrote transient proposed =>
        refine ⟨[a], ⟨.refl _, ?_, ?_⟩, by simp⟩
        · exact .cons ⟨_, _, rfl⟩ .nil
        · simp [closings, Moment.recorded?]
    refine ⟨resent₁ ++ resent, resends₁.append resends, ?_⟩
    -- Each part of the trace closes attempts of its own only.
    have own₁ : (closings first).Sublist [a.id] := ((notes_recordOne _ a).noted head).closings
    have own₂ : (closings rest).Sublist (group.map (·.id)) :=
      ((Notes.foldlM notes_recordOne group _).noted tail).closings
    intro b listed transient closed
    rw [closings_append, List.mem_append] at closed
    rw [List.mem_append]
    rcases List.mem_cons.1 listed with rfl | listed
    · exact .inl (complete₁ transient (closed.resolve_right fun later => once.1 (own₂.subset later)))
    · refine .inr (complete b listed transient (closed.resolve_left fun earlier => once.1 ?_))
      rw [← List.mem_singleton.1 (own₁.subset earlier)]
      exact List.mem_map_of_mem listed

/-- The turn of a group has no answer but the one that the Planner gave to it. -/
theorem runs_sendGroup_reply {result : Except DomainError (Uuid × List ItemResult)}
    (run : Runs (sendGroup policy op group) s t result after) : ∀ m ∈ t, ∀ op' results,
      m.reply? op' = some results → m.sent = group ∧ ∃ call, result = .ok (call, results) := by
  unfold sendGroup at run
  obtain ⟨correlation, _, _, -, rfl, run₁⟩ := runs_request_bind_iff.1 run
  obtain ⟨startedAt, _, _, -, rfl, run₂⟩ := runs_request_bind_iff.1 run₁
  obtain ⟨id, _, _, -, rfl, run₃⟩ := runs_request_bind_iff.1 run₂
  obtain ⟨opened, _, _, -, rfl, run₄⟩ := runs_request_bind_iff.1 run₃
  simp only [List.forall_mem_cons]
  refine ⟨by simp [Moment.reply?], by simp [Moment.reply?], by simp [Moment.reply?],
    by simp [Moment.reply?], ?_⟩
  cases opened with
  | error e =>
    obtain ⟨rfl, -, -⟩ := runs_pure_iff.1 run₄
    simp
  | ok u =>
    obtain ⟨reply, _, calls, _, rfl, called, run₅⟩ := runs_bind_iff.1 run₄
    obtain ⟨-, final, replied, tries⟩ := (makes_send _ _ _ _).perform called
    obtain ⟨endedAt, _, more, -, rfl, run₆⟩ := runs_request_bind_iff.1 run₅
    have answers : ∀ m ∈ calls, ∀ op' results, m.reply? op' = some results →
        m.sent = group ∧ reply = .ok results := by
      intro m mem op' results found
      obtain ⟨-, rfl, -⟩ | sends := tries
      · cases mem
      · obtain ⟨-, whole, rfl⟩ := Sends.reply? sends m mem op' results found
        refine ⟨whole, ?_⟩
        cases reply with
        | ok results' => exact congrArg Except.ok (Option.some.inj replied)
        | error e => cases replied
    have closes : ∀ m ∈ more, ∀ op', m.reply? op' = none := by
      cases reply <;>
      · obtain ⟨-, -, answer, rfl⟩ := runs_finish run₆
        simp [Moment.reply?]
    refine List.forall_mem_append.2 ⟨fun m mem op' results found => ?_,
      List.forall_mem_cons.2 ⟨by simp [Moment.reply?], fun m mem op' results found => ?_⟩⟩
    · obtain ⟨whole, rfl⟩ := answers m mem op' results found
      obtain ⟨-, rfl, -⟩ := runs_finish run₆
      exact ⟨whole, id, rfl⟩
    · rw [closes m mem op'] at found
      cases found

/-- Closing superseded updates offers nothing. -/
theorem offers_closing {b : Batch} {l : List Attempt} {progress next : Progress}
    (run : Runs (l.foldlM (closeOne b) progress) s t next after) : offers t = [] := by
  refine List.filterMap_eq_nil_iff.2
    (runs_foldlM (fun _ _ _ => True) ?_ trivial run fun _ _ => trivial).2
  intro a l progress s t next after _ run _
  refine ⟨trivial, fun m mem => ?_⟩
  cases (runs_closeOne run).1 with
  | kept unknown => cases mem
  | lost e found => rw [List.mem_singleton.1 mem]; rfl
  | closed found wrote => rw [List.mem_singleton.1 mem]; rfl

/-- A call that grants something is one to a group, with a result for it. -/
theorem sent_of_grants {result : Except DomainError (Uuid × List ItemResult)} {m : Moment}
    (run : Runs (sendGroup policy op group) s t result after) (mem : m ∈ t)
    (transient : m.grants ItemResult.isTransient a = true) :
    a ∈ group ∧ ∃ call results, result = .ok (call, results) ∧
      (ItemResult.lastFor? results a.id).any ItemResult.isTransient = true := by
  obtain ⟨carried, op', results, replied, found⟩ := Moment.grants_iff.1 transient
  obtain ⟨whole, call, rfl⟩ := runs_sendGroup_reply run m mem op' results replied
  exact ⟨whole ▸ carried, call, results, rfl, found⟩

/-- Of these attempts some are closed and offered again, and among them is every one that is sent, is
answered with a transient failure, and is closed. -/
structure Pursues (todo resent : List Attempt) (t : List Moment) : Prop where
  resends : Resends todo resent t
  own : ∀ id ∈ closings t, id ∈ todo.map (·.id)
  complete : ∀ m ∈ t, ∀ a, m.grants ItemResult.isTransient a = true →
    a ∈ todo ∧ (a.id ∈ closings t → a ∈ resent)

namespace Pursues

/-- Nothing is offered and nothing is answered with a transient failure. -/
theorem of_silent (none : offers t = []) (own : ∀ id ∈ closings t, id ∈ todo.map (·.id))
    (lasting : ∀ m ∈ t, ∀ a, m.grants ItemResult.isTransient a ≠ true) : Pursues todo [] t :=
  ⟨(Resends.of_offers_eq_nil none).mono (List.nil_sublist _), own,
    fun m mem a transient => absurd transient (lasting m mem a)⟩

theorem append (first : Pursues todo resent t) (second : Pursues todo' resent' t')
    (once : ((todo ++ todo').map (·.id)).Nodup) :
    Pursues (todo ++ todo') (resent ++ resent') (t ++ t') := by
  rw [List.map_append, List.nodup_append] at once
  obtain ⟨-, -, apart⟩ := once
  refine ⟨first.resends.append second.resends, fun id closed => ?_, fun m mem a transient => ?_⟩
  · rw [closings_append, List.mem_append] at closed
    rw [List.map_append, List.mem_append]
    exact closed.imp (first.own id) (second.own id)
  · -- An attempt is closed by the part of the trace that it belongs to.
    rw [closings_append, List.mem_append, List.mem_append, List.mem_append]
    rcases List.mem_append.1 mem with mem | mem
    · obtain ⟨listed, complete⟩ := first.complete m mem a transient
      refine ⟨.inl listed, fun closed => .inl (complete (closed.resolve_right fun later => ?_))⟩
      exact apart _ (List.mem_map_of_mem listed) _ (second.own _ later) rfl
    · obtain ⟨listed, complete⟩ := second.complete m mem a transient
      refine ⟨.inr listed, fun closed => .inr (complete (closed.resolve_left fun earlier => ?_))⟩
      exact apart _ (first.own _ earlier) _ (List.mem_map_of_mem listed) rfl

end Pursues

/-- The turn of a group that is refused. -/
theorem pursues_refused {e : DomainError}
    (sent : Runs (sendGroup policy op group) s t (.error e) after) : Pursues todo [] t := by
  obtain ⟨-, sending, -⟩ := runs_sendGroup sent
  refine .of_silent (offers_of_idle fun m mem => (sending m mem).idle) ?_ fun m mem a transient => ?_
  · rw [closings_of_idle fun m mem => (sending m mem).idle]
    simp
  · obtain ⟨-, _, _, refused, -⟩ := sent_of_grants sent mem transient
    cases refused

/-- The turn of a group that is answered. -/
theorem exists_pursues_answered {s₁ : Store} {call : Uuid} {results : List ItemResult}
    {syncedAt : Timestamp} {progress next : Progress} (once : (group.map (·.id)).Nodup)
    (sent : Runs (sendGroup policy op group) s t (.ok (call, results)) s₁)
    (recording : Runs (group.foldlM (recordOne call results syncedAt) progress) s₁ t' next after) :
    ∃ resent, Pursues group resent (t ++ ⟨s₁, .now, syncedAt⟩ :: t') := by
  obtain ⟨-, sending, -⟩ := runs_sendGroup sent
  have idle : ∀ m ∈ t ++ [(⟨s₁, .now, syncedAt⟩ : Moment)], m.Idle :=
    List.forall_mem_append.2 ⟨fun m mem => (sending m mem).idle, List.forall_mem_singleton.2 rfl⟩
  obtain ⟨resent, resends, complete⟩ := exists_resends_record once recording
  have own := ((Notes.foldlM notes_recordOne group _).noted recording).closings
  have closed : closings (t ++ [⟨s₁, .now, syncedAt⟩] ++ t') = closings t' := by
    rw [closings_append, closings_of_idle idle, List.nil_append]
  rw [List.append_cons]
  refine ⟨resent, (Resends.of_offers_eq_nil (offers_of_idle idle)).append resends, ?_, ?_⟩
  · rw [closed]
    exact fun id here => own.subset here
  · rw [closed, List.append_assoc]
    intro m mem a transient
    simp only [List.mem_append, List.mem_singleton] at mem
    rcases mem with mem | rfl | mem
    · obtain ⟨listed, _, _, same, found⟩ := sent_of_grants sent mem transient
      obtain ⟨rfl, rfl⟩ := Prod.mk.inj (Except.ok.inj same)
      exact ⟨listed, complete a listed found⟩
    · cases transient
    · obtain ⟨-, op', results', replied, -⟩ := Moment.grants_iff.1 transient
      rw [((quiet_record recording m mem).silent op').1] at replied
      cases replied

/-- Closing superseded updates. -/
theorem pursues_closing {b : Batch} {l : List Attempt} {progress next : Progress}
    (closing : Runs (l.foldlM (closeOne b) progress) s t next after) : Pursues l [] t := by
  have own := ((Notes.foldlM notes_closeOne l _).noted closing).closings
  refine .of_silent (offers_closing closing) (fun id here => own.subset here) ?_
  intro m mem a transient
  obtain ⟨-, op', results', replied, -⟩ := Moment.grants_iff.1 transient
  rw [((quiet_close closing m mem).silent op').1] at replied
  cases replied

/-- Of all that is sent, each attempt with a transient result is closed and offered again, or
neither. -/
theorem exists_pursues_sendGroups {queue : List Attempt} {b : Batch}
    {groups : List (Operation × List Attempt)} {progress : Progress}
    {result : Except DomainError CycleReport}
    (once : ((toAnswer queue b groups).map (·.id)).Nodup)
    (run : Runs (sendGroups policy queue b groups progress) s t result after) :
    ∃ resent, Pursues (toAnswer queue b groups) resent t := by
  induction groups generalizing s t progress with
  | nil =>
    obtain ⟨rfl, -⟩ := runs_sendGroups_nil run
    exact ⟨[], .of_silent rfl (by simp [closings]) (by simp)⟩
  | cons head groups ih =>
    obtain ⟨op, group⟩ := head
    have split : toAnswer queue b ((op, group) :: groups) =
        group ++ (toClose queue b op ++ toAnswer queue b groups) := List.append_assoc _ _ _
    rw [split] at once ⊢
    have once₁ : (group.map (·.id)).Nodup :=
      once.sublist ((List.sublist_append_left _ _).map _)
    have once₂ : ((toClose queue b op ++ toAnswer queue b groups).map (·.id)).Nodup :=
      once.sublist ((List.sublist_append_right _ _).map _)
    have once₃ := once₂.sublist ((List.sublist_append_right _ _).map _)
    cases runs_sendGroups_cons run with
    | shutdown sent => exact ⟨[], pursues_refused sent⟩
    | failed sent kept more =>
      obtain ⟨resent, pursues⟩ := ih once₃ more
      have none : Pursues (toClose queue b op) [] [] :=
        .of_silent rfl (by simp [closings]) (by simp)
      exact ⟨_, (pursues_refused sent).append (none.append pursues once₂) once⟩
    | answered sent kept recording closing more =>
      obtain ⟨resent₁, answered⟩ := exists_pursues_answered once₁ sent recording
      obtain ⟨resent₂, pursues⟩ := ih once₃ more
      have all := answered.append ((pursues_closing closing).append pursues once₂) once
      rw [List.append_assoc, List.cons_append] at all
      exact ⟨_, all⟩

/-- The resends of a cycle. -/
theorem exists_pursues_run {maxCreates : Nat} {department : String}
    {result : Except DomainError CycleReport}
    (once : ((toAnswer (s.pending department) (Batch.build (s.pending department) maxCreates)
      (Batch.build (s.pending department) maxCreates).groups).map (·.id)).Nodup)
    (run : Runs (Cycle.run policy maxCreates department) s t result after) :
    ∃ resent, Pursues (toAnswer (s.pending department)
      (Batch.build (s.pending department) maxCreates)
      (Batch.build (s.pending department) maxCreates).groups) resent t := by
  have read {answer : Except DomainError (List Attempt)} :
      Pursues [] [] [⟨s, .pendingAttempts department, answer⟩] :=
    .of_silent rfl (by simp [closings, Moment.recorded?]) (by simp [Moment.grants])
  obtain ⟨e, rfl, -⟩ | ⟨rest, rfl, sent⟩ := runs_run run
  · exact ⟨[], .of_silent rfl (by simp [closings, Moment.recorded?]) (by simp [Moment.grants])⟩
  · obtain ⟨resent, pursues⟩ := exists_pursues_sendGroups once sent
    exact ⟨resent, read.append pursues once⟩

end Cycle

/-! ## What becomes of the rows -/

namespace Simulation.Store
variable {id : Uuid} {c : Completion} {rows changed : List Attempt}

/-- Where there is an attempt with the identifier an outcome can be recorded, and identifiers stay. -/
theorem exists_changeFirst?_complete (c : Completion) (here : id ∈ rows.map (·.id)) :
    ∃ changed, changeFirst? (fun a => decide (a.id = id)) (·.complete c) rows = some changed ∧
      changed.map (·.id) = rows.map (·.id) := by
  obtain ⟨a, mem, same⟩ := List.mem_map.1 here
  cases h : changeFirst? (fun a => decide (a.id = id)) (·.complete c) rows with
  | none => exact absurd same (by simpa using changeFirst?_eq_none_iff.1 h a mem)
  | some changed =>
    obtain ⟨before, row, rest, rfl, -, -, rfl⟩ := changeFirst?_eq_some_iff.1 h
    exact ⟨_, rfl, by simp⟩

theorem attempts_of_changeFirst? (wrote : s.completeAttempt id c = .ok after)
    (found : changeFirst? (fun a => decide (a.id = id)) (·.complete c) s.attempts = some changed) :
    after.attempts = changed := by
  rw [completeAttempt, found] at wrote
  rw [← Except.ok.inj wrote]

end Simulation.Store

namespace Program
variable {α : Type} {p : Program α} {value : α}

/-- New attempts stand behind the old ones, and no outcome reaches them where each outcome is for an
identifier among the old ones. -/
theorem Runs.tail (run : Runs p s t value after) {old new : List Attempt}
    (rows : s.attempts = old ++ new) (own : ∀ id ∈ closings t, id ∈ old.map (·.id)) :
    ∃ old', after.attempts = old' ++ (new ++ t.filterMap Moment.added?) ∧
      old'.map (·.id) = old.map (·.id) := by
  induction run generalizing old new with
  | done value s => exact ⟨old, by simpa using rows, rfl⟩
  | @ask r next s middle after answer t value answered rest ih =>
    rw [closings_cons, List.forall_mem_append] at own
    cases Moment.leads_of_answers answered with
    | kept same leaves =>
      have same : middle.attempts = s.attempts := same
      obtain ⟨old', rows', ids⟩ := ih (same.trans rows) own.2
      exact ⟨old', by rw [rows', List.filterMap_cons, leaves.2], ids⟩
    | @added a grown added unrecorded =>
      have grown : middle.attempts = old ++ (new ++ [a]) := by
        rw [← List.append_assoc, ← rows]
        exact grown
      obtain ⟨old', rows', ids⟩ := ih grown own.2
      exact ⟨old', by rw [rows', List.filterMap_cons, added]; simp, ids⟩
    | @recorded id c wrote recorded =>
      have here : id ∈ old.map (·.id) :=
        own.1 id (mem_closings.2 ⟨_, List.mem_singleton_self _, c, recorded⟩)
      obtain ⟨changed, first, ids⟩ := Store.exists_changeFirst?_complete c here
      have grown : middle.attempts = changed ++ new :=
        Store.attempts_of_changeFirst? wrote (rows ▸ changeFirst?_append first)
      obtain ⟨old', rows', ids'⟩ := ih grown (by rw [ids]; exact own.2)
      refine ⟨old', ?_, ids'.trans ids⟩
      rw [rows', List.filterMap_cons, (Moment.added?_eq_none_of_recorded recorded)]

/-- An attempt that gets no outcome stays as it is. -/
theorem Runs.attempt? (run : Runs p s t value after) {id : Uuid} (kept : id ∉ closings t)
    (found : s.attempt? id = some a) : after.attempt? id = some a := by
  induction run with
  | done value s => exact found
  | @ask r next s middle after answer t value answered rest ih =>
    rw [closings_cons, List.mem_append, not_or] at kept
    refine ih kept.2 ((Moment.leads_of_answers answered).attempt? (fun c recorded => ?_) found)
    exact kept.1 (mem_closings.2 ⟨_, List.mem_singleton_self _, c, recorded⟩)

end Program

/-- An attempt is found under its identifier. -/
theorem Attempt.find?_of_mem {rows : List Attempt} (distinct : (rows.map (·.id)).Nodup)
    (mem : a ∈ rows) : rows.find? (fun b => decide (b.id = a.id)) = some a := by
  cases found : rows.find? (fun b => decide (b.id = a.id)) with
  | none => exact absurd (by simp) (List.find?_eq_none.1 found a mem)
  | some b =>
    have same : b.id = a.id := by simpa using List.find?_some found
    rw [Attempt.eq_of_id_eq distinct (List.mem_of_find?_eq_some found) mem same]

/-- A row that waits has waited all along. -/
theorem Attempt.Grows.of_pending {rows rows' : List Attempt} (grows : Grows rows rows') {i : Nat}
    (old : i < rows.length) (here : rows'[i]? = some b) (pending : b.isPending = true) :
    ∃ a ∈ rows, a.isPending = true ∧ a.id = b.id ∧ a.aim = b.aim := by
  have first : rows[i]? = some rows[i] := List.getElem?_eq_getElem old
  obtain ⟨b', there, same, kept⟩ := grows i rows[i] first
  obtain rfl : b = b' := Option.some.inj (here.symm.trans there)
  have waits : rows[i].isPending = true := by
    by_contra closed
    have closed : rows[i].isPending = false := by simpa using closed
    rw [kept closed, closed] at pending
    cases pending
  simp only [Attempt.proposal, Prod.mk.injEq] at same
  obtain ⟨id, event, op, window, -⟩ := same
  refine ⟨rows[i], List.getElem_mem old, waits, id.symm, ?_⟩
  rw [Attempt.aim, Attempt.aim, event, op, window]

namespace Cycle
variable {policy : CallPolicy} {maxCreates : Nat} {department : String}
  {result : Except DomainError CycleReport} {m : Moment}

/-- What a cycle leaves behind, in terms of what it asked for: new rows stand behind the old ones, an
attempt without an outcome is still there, and one with an outcome does not wait. -/
structure Leaves (todo resent : List Attempt) (s : Store) (t : List Moment) (after : Store) :
    Prop where
  resends : Resends todo resent t
  once : (todo.map (·.id)).Nodup
  waits : ∀ a ∈ todo, a ∈ s.attempts ∧ a.isPending = true
  rows : ∃ old, after.attempts = old ++ t.filterMap Moment.added? ∧
    old.map (·.id) = s.attempts.map (·.id)
  grows : Attempt.Grows s.attempts after.attempts
  kept : ∀ a ∈ todo, a.id ∉ closings t → a ∈ after.attempts
  holds : ∀ id ∈ closings t, after.Holds id

theorem exists_leaves_run (distinct : (s.attempts.map (·.id)).Nodup)
    (run : Runs (Cycle.run policy maxCreates department) s t result after) :
    ∃ todo resent, Leaves todo resent s t after ∧
      ∀ m ∈ t, ∀ a, m.grants ItemResult.isTransient a = true →
        a ∈ todo ∧ (a.id ∈ closings t → a ∈ resent) := by
  have under : Under True s (toAnswer (s.pending department)
      (Batch.build (s.pending department) maxCreates)
      (Batch.build (s.pending department) maxCreates).groups) s :=
    under_toAnswer distinct List.filter_sublist
  obtain ⟨resent, pursues⟩ := exists_pursues_run under.once run
  obtain ⟨once, awaits, due⟩ := run.due_of_noted (noted_run run) distinct under.once under.waits
  have own : ∀ id ∈ closings t, id ∈ s.attempts.map (·.id) := by
    intro id closed
    obtain ⟨b, listed, rfl⟩ := List.mem_map.1 (pursues.own id closed)
    exact List.mem_map_of_mem (under.waits b listed).1
  refine ⟨_, resent, ⟨pursues.resends, under.once, under.waits, ?_, ?_, fun a listed open_ => ?_,
    fun id closed => run.holds due (.inr closed)⟩, pursues.complete⟩
  · exact run.tail (List.append_nil _).symm own
  · exact (List.pairwise_cons.1 (run.grows due)).1 after (by simp)
  · exact List.mem_of_find?_eq_some
      (run.attempt? open_ (Attempt.find?_of_mem distinct (under.waits a listed).1))

namespace Leaves
variable (leaves : Leaves todo resent s t after)
include leaves

/-- A resend that the storage takes stands at the end of the table. -/
theorem owes (listed : a ∈ todo) (complete : a.id ∈ closings t → a ∈ resent)
    (taken : ¬ Refused t a) : after.Owes a := by
  by_cases closed : a.id ∈ closings t
  · obtain ⟨m, mem, r, offered, repeats⟩ := leaves.resends.exists_offer (complete closed)
    have stored : m.Stored := by
      by_contra failed
      exact taken ⟨m, mem, failed, r, offered, repeats⟩
    have added : r ∈ t.filterMap Moment.added? :=
      List.mem_filterMap.2 ⟨m, mem, Moment.added?_eq_some_iff.2 ⟨offered, stored⟩⟩
    obtain ⟨old, rows, -⟩ := leaves.rows
    refine ⟨r, rows ▸ List.mem_append_right _ added, ?_, repeats.aim⟩
    obtain ⟨id, createdAt, rfl⟩ := repeats
    rfl
  · exact ⟨a, leaves.kept a listed closed, (leaves.waits a listed).2, rfl⟩

/-- An old row that waits in the end has waited at first and got no outcome. -/
theorem of_old {old : List Attempt} (distinct : (s.attempts.map (·.id)).Nodup)
    (rows : after.attempts = old ++ t.filterMap Moment.added?)
    (ids : old.map (·.id) = s.attempts.map (·.id)) (mem : b ∈ old) (pending : b.isPending = true) :
    (∃ a ∈ s.attempts, a.isPending = true ∧ a.id = b.id ∧ a.aim = b.aim) ∧ b.id ∉ closings t := by
  obtain ⟨i, lt, rfl⟩ := List.getElem_of_mem mem
  have length : old.length = s.attempts.length := by simpa using congrArg List.length ids
  have row : after.attempts[i]? = some old[i] := by
    rw [rows, List.getElem?_append_left lt, List.getElem?_eq_getElem lt]
  refine ⟨leaves.grows.of_pending (length ▸ lt) row pending, fun closed => ?_⟩
  obtain ⟨d, found, answered⟩ := leaves.holds _ closed
  rw [Store.attempt?, rows, List.find?_append, Attempt.find?_of_mem (ids ▸ distinct) mem,
    Option.some_or] at found
  rw [← Option.some.inj found, pending] at answered
  cases answered

/-- A refusal concerns an attempt that has been closed. -/
theorem closed_of_refused (lone : s.Lone a) (refused : Refused t a) : a.id ∈ closings t := by
  obtain ⟨m, mem, -, r, offered, repeats⟩ := refused
  obtain ⟨b, listed, aim⟩ := leaves.resends.exists_of_offered mem offered
  obtain ⟨here, pending⟩ := leaves.waits b (leaves.resends.among.subset listed)
  obtain rfl := lone b here pending (aim.trans repeats.aim)
  exact leaves.resends.closed b listed

/-- After a refusal nothing is left that is after the same. -/
theorem not_owes (distinct : (s.attempts.map (·.id)).Nodup) (lone : s.Lone a)
    (refused : Refused t a) : ¬ after.Owes a := by
  rintro ⟨b, there, pending, same⟩
  have closed := leaves.closed_of_refused lone refused
  obtain ⟨old, rows, ids⟩ := leaves.rows
  rw [rows, List.mem_append] at there
  rcases there with there | there
  · -- An old row that waits would be the attempt itself, which has its outcome.
    obtain ⟨⟨a', here, waited, id, aim⟩, unanswered⟩ :=
      leaves.of_old distinct rows ids there pending
    obtain rfl := lone a' here waited (aim.trans same)
    exact unanswered (id ▸ closed)
  · -- A new row would be a second offer.
    obtain ⟨m, mem, failed, r, offered, repeats⟩ := refused
    obtain ⟨m', mem', added⟩ := List.mem_filterMap.1 there
    obtain ⟨offered', stored⟩ := Moment.added?_eq_some_iff.1 added
    have only : ∀ b ∈ todo, b.aim = a.aim → b = a :=
      fun b listed => lone b (leaves.waits b listed).1 (leaves.waits b listed).2
    obtain rfl := leaves.resends.eq_of_offered leaves.once.of_map only mem mem' offered offered'
      repeats.aim same
    exact failed stored

end Leaves

/-- A resend is lost exactly when the storage refuses it. Whatever requests to the storage fail, an
attempt that the Planner has answered with a transient failure is still waited for, unless the
storage refused to add it again. After a refusal nothing waits any more that is after the same, if
nothing but the attempt did so before. -/
theorem owed_unless_refused (distinct : (s.attempts.map (·.id)).Nodup)
    (run : Runs (Cycle.run policy maxCreates department) s t result after) (mem : m ∈ t)
    (transient : m.grants ItemResult.isTransient a = true) :
    (¬ Refused t a → after.Owes a) ∧ (s.Lone a → Refused t a → ¬ after.Owes a) := by
  obtain ⟨todo, resent, leaves, complete⟩ := exists_leaves_run distinct run
  obtain ⟨listed, complete⟩ := complete m mem a transient
  exact ⟨leaves.owes listed complete, leaves.not_owes distinct⟩

end Cycle

/-! ## A refusal -/

namespace Simulation.World

/-- A create and a delete that both fail for now, and storage that fails to add the first new
attempt. -/
def refusing : World :=
  let created := atSecond 1000
  let event (id attempt : Nat) (op : Operation) : Event :=
    ⟨.ofNat id, "rooms", "item", false, created,
      [.pending (.ofNat attempt) (.ofNat id) op ⟨created, created⟩ created]⟩
  Session.world (atSecond 2000) (.ofEvents [event 1 11 .create, event 2 21 .delete] [])
    ⟨fun _ => [], [(.ofNat 1, .fails (some 15)), (.ofNat 2, .fails (some 15))], []⟩
    [(.insertAttempt, some ⟨.database, "disk full"⟩)] false

end Simulation.World

namespace Cycle

/-- The create, which the storage refuses to add again, is lost, and the delete is not. -/
theorem owed_unless_refused_refusing : ∃ t result after a b,
    Runs (Cycle.run World.samplePolicy 10 "rooms") World.refusing.store t result after ∧
      World.refusing.store.attempts = [a, b] ∧ ¬ after.Owes a ∧ after.Owes b := by
  obtain ⟨result, run, -⟩ := World.exists_runs World.refusing
    (Cycle.run World.samplePolicy 10 "rooms") rfl (by decide +kernel)
  have distinct : (World.refusing.store.attempts.map (·.id)).Nodup := by decide +kernel
  let a := World.refusing.store.attempts[0]
  let b := World.refusing.store.attempts[1]
  obtain ⟨m₁, mem₁, transient₁⟩ : ∃ m ∈ World.refusing.moments
      (Cycle.run World.samplePolicy 10 "rooms"), m.grants ItemResult.isTransient a = true := by
    decide +kernel
  obtain ⟨m₂, mem₂, transient₂⟩ : ∃ m ∈ World.refusing.moments
      (Cycle.run World.samplePolicy 10 "rooms"), m.grants ItemResult.isTransient b = true := by
    decide +kernel
  refine ⟨_, result, _, a, b, run, rfl, ?_, ?_⟩
  · exact (owed_unless_refused distinct run mem₁ transient₁).2 (by decide +kernel)
      (by decide +kernel)
  · exact (owed_unless_refused distinct run mem₂ transient₂).1 (by decide +kernel)

/-- So a transient failure can be the end of an attempt. -/
theorem exists_lost_resend : ¬ ∀ (policy : CallPolicy) (maxCreates : Nat) (department : String)
    (s after : Store) (t : List Moment) (result : Except DomainError CycleReport) (m : Moment)
    (a : Attempt), (s.attempts.map (·.id)).Nodup →
      Runs (Cycle.run policy maxCreates department) s t result after → m ∈ t →
        m.grants ItemResult.isTransient a = true → after.Owes a := by
  intro kept
  obtain ⟨result, run, -⟩ := World.exists_runs World.refusing
    (Cycle.run World.samplePolicy 10 "rooms") rfl (by decide +kernel)
  let a := World.refusing.store.attempts[0]
  obtain ⟨m, mem, transient⟩ : ∃ m ∈ World.refusing.moments
      (Cycle.run World.samplePolicy 10 "rooms"), m.grants ItemResult.isTransient a = true := by
    decide +kernel
  have owes := kept _ _ _ _ _ _ _ m a (by decide +kernel) run mem transient
  revert owes
  decide +kernel

end Cycle

end CalendarSync
