import CalendarSync.Proofs.Assembly
import CalendarSync.Proofs.Conclusion

/-!
# Ticks and shutdowns

A shutdown may be requested at any time of a tick. No call begins from then on. The call that is
under way may still be answered, and so may have been the one before; the answer is applied in full,
and nothing else changes attempts or resources any more.
-/

namespace CalendarSync
set_option autoImplicit false
open Program Simulation

variable {s after : Store} {t : List Moment}

/-! ## Reconciliations -/

namespace Reconciliation
variable {policy : CallPolicy} {department : String}

/-- With storage that does not fail, the plan for the Planner's list is applied. -/
theorem applied_reconciling {listed : List ListedResource}
    {result : Except DomainError ReconciliationReport}
    (run : Runs (reconciling department listed) s t result after) (stored : ∀ m ∈ t, m.Stored) :
    Applied department listed s after := by
  have attempts : after.attempts = s.attempts :=
    only_reconciling.within.agree .attempts run (by decide)
  have failed {e : DomainError} {m : Moment} (mem : m ∈ t) (fault : m.fault? = some e) : False := by
    have none : m.fault? = none := stored m mem
    rw [none] at fault
    cases fault
  unfold reconciling at run
  obtain ⟨e, rfl, known⟩ | ⟨records, _, _, _, rfl, known, run₁⟩ := Service.runs_bind_iff.1 run
  · obtain ⟨-, rfl⟩ := runs_request_iff.1 known
    exact (failed (List.mem_singleton_self _) rfl).elim
  obtain ⟨⟨rfl, found⟩, -⟩ := runs_request_iff.1 known
  obtain rfl := found records rfl
  obtain ⟨instant, _, _, _, rfl, clock, run₂⟩ := Service.runs_lift_bind_iff.1 run₁
  obtain ⟨rfl, -⟩ := runs_request_iff.1 clock
  obtain ⟨e, -, new⟩ | ⟨rows, _, _, _, rfl, new, run₃⟩ := Service.runs_bind_iff.1 run₂
  · obtain ⟨-, _, impossible, -⟩ := runs_newRecords new
    cases impossible
  obtain ⟨rfl, _, same, made, -⟩ := runs_newRecords new
  cases same
  obtain ⟨e, -, -, m, mem, fault⟩ | ⟨-, rfl⟩ := runs_applying run₃
  · exact (failed (by simp [mem]) fault).elim
  · exact ⟨attempts, instant, rows, made, rfl⟩

theorem only_fetch (tables : List Table) : Only (Request.within tables)
    (policy.perform "get_resources" (.request (.listResources department policy.limit))) :=
  only_perform rfl (fun _ _ => rfl) (.request rfl)

theorem only_run : Only (Request.within [.resources]) (Reconciliation.run policy department) := by
  rw [run_eq]
  exact (only_fetch _).service_bind fun listed => only_reconciling.within

theorem concluded_run {apart : Prop} {result : Except DomainError ReconciliationReport}
    (run : Runs (Reconciliation.run policy department) s t result after)
    (stored : ∀ m ∈ t, m.Stored) : Concluded apart s t after := by
  rw [run_eq] at run
  obtain ⟨e, rfl, fetch⟩ | ⟨listed, middle, t₁, t₂, rfl, fetch, run'⟩ :=
    Service.runs_bind_iff.1 run
  · obtain ⟨rfl, final, replied, tries⟩ := (makes_listResources _ _).perform fetch
    have last := lastCall?_of_tries tries fun _ => rfl
    refine .of_unanswered last replied (fun e => ⟨rfl, .refl _⟩) (.refl _) fun m mem => ?_
    exact unedited_of_within ((only_fetch []).moments fetch m mem) List.not_mem_nil List.not_mem_nil
  · have within := (only_fetch []).moments fetch
    obtain ⟨rfl, final, replied, tries⟩ := (makes_listResources _ _).perform fetch
    obtain ⟨early, rfl⟩ := ends_of_tries tries replied
    rw [List.forall_mem_append] at stored
    rw [List.append_assoc, List.singleton_append]
    refine .of_answer rfl rfl (fun m mem => ?_) (only_reconciling.internal run')
      fun _ => applied_reconciling run' stored.2
    exact unedited_of_within (within m mem) List.not_mem_nil List.not_mem_nil

end Reconciliation

/-! ## Ticks -/

/-- The identifiers of the attempts, and those that are issued, are apart. -/
def Fresh (s : Store) (t : List Moment) : Prop :=
  (s.attempts.map (·.id) ++ issued t).Nodup

instance : Decidable (Fresh s t) :=
  inferInstanceAs (Decidable (List.Nodup _))

/-- With storage that does not fail a run is concluded, and new attempts get identifiers that were
issued for them. -/
def Program.Concludes {α : Type} (p : Program α) : Prop :=
  ∀ s t value after, Runs p s t value after → (∀ m ∈ t, m.Stored) →
    Concluded (Fresh s t) s t after ∧ (addings t).Sublist (issued t)

namespace Program.Concludes
variable {α β : Type}

theorem pure (value : α) : Concludes (Pure.pure value : Program α) := by
  intro s t result after run _
  obtain ⟨rfl, -, rfl⟩ := runs_pure_iff.1 run
  exact ⟨.of_quiet (.refl _) (by simp) (by simp), List.nil_sublist _⟩

theorem bind {p : Program α} {f : α → Program β} (first : Concludes p)
    (rest : ∀ value, Concludes (f value)) : Concludes (p >>= f) := by
  intro s t result after run stored
  obtain ⟨value, middle, t₁, t₂, rfl, run₁, run₂⟩ := runs_bind_iff.1 run
  rw [List.forall_mem_append] at stored
  obtain ⟨concluded₁, named₁⟩ := first _ _ _ _ run₁ stored.1
  obtain ⟨concluded₂, named₂⟩ := rest _ _ _ _ _ run₂ stored.2
  have split : Fresh s (t₁ ++ t₂) ↔ (s.attempts.map (·.id) ++ issued t₁ ++ issued t₂).Nodup := by
    rw [Fresh, issued_append, ← List.append_assoc]
  have fresh₁ (fresh : Fresh s (t₁ ++ t₂)) : Fresh s t₁ := (split.1 fresh).of_append_left
  have fresh₂ (fresh : Fresh s (t₁ ++ t₂)) : Fresh middle t₂ := by
    rw [Fresh, run₁.ids]
    exact (split.1 fresh).sublist (((List.Sublist.refl _).append named₁).append (.refl _))
  refine ⟨(concluded₁.mono fresh₁).append (concluded₂.mono fresh₂), ?_⟩
  rw [addings_append, issued_append]
  exact named₁.append named₂

/-- A look for a shutdown. -/
theorem look (token : Token) : Concludes (Program.request (.isCancelled token)) := by
  intro s t answer after run _
  obtain ⟨rfl, rfl⟩ := runs_request_iff.1 run
  exact ⟨.of_quiet (.refl _) (by simp [Request.isCall]) (by simp [Moment.Edits, Request.table?]),
    List.nil_sublist _⟩

end Program.Concludes

namespace Services

theorem concludes_tick (services : Services) (token : Token) (wanted : Bool)
    (departments : List String) : Concludes (services.tick token wanted departments) := by
  refine services.tick_of token (P := Concludes) .pure .bind (.look token) (fun department => ?_)
    (fun department => ?_) wanted departments
  · intro s t result after run stored
    exact ⟨(Cycle.concluded_run run stored).mono List.Nodup.of_append_left,
      (Cycle.noted_run run).named⟩
  · intro s t result after run stored
    refine ⟨Reconciliation.concluded_run run stored, ?_⟩
    have rows : after.attempts = s.attempts :=
      Reconciliation.only_run.agree .attempts run (by decide)
    have ids := run.ids
    rw [rows, List.self_eq_append_right] at ids
    rw [ids]
    exact List.nil_sublist _

end Services

/-! ## Shutdowns -/

namespace Moment
variable {m : Moment}

theorem isCall_of_isAnswered (answered : m.isAnswered = true) : m.request.isCall = true := by
  obtain ⟨store, request, answer⟩ := m
  cases request with
  | send op group correlation limit => rfl
  | listResources department limit => rfl
  | _ => cases answered

/-- What changes attempts or resources is no call. -/
theorem Edits.isCall (edits : m.Edits) : m.request.isCall = false := by
  obtain ⟨store, request, answer⟩ := m
  cases request with
  | send op group correlation limit => rcases edits with same | same <;> cases same
  | listResources department limit => rcases edits with same | same <;> cases same
  | _ => rfl

end Moment

/-- What changes attempts or resources and does not end before the shutdown comes right after the last
call, which began before the shutdown and was answered. -/
theorem Span.Timeline.after_last {token : Token} {shutdown now : Nat} {before rest : List Span}
    {span : Span} (timeline : Timeline token shutdown now (before ++ span :: rest))
    (guarded : Guarded token ((before ++ span :: rest).map (·.moment)))
    (led : Led Moment.Edits Answering ((before ++ span :: rest).map (·.moment)))
    (edits : span.moment.Edits) (late : shutdown ≤ span.ends) :
    ∃ early call quiet, before = early ++ call :: quiet ∧ call.moment.isAnswered = true ∧
      call.begins < shutdown ∧
      lastCall? ((before ++ span :: rest).map (·.moment)) = some call.moment ∧
      ∀ q ∈ quiet, q.moment.request.isInternal = true := by
  have calls (other : Span) (mem : other ∈ before ++ span :: rest)
      (isCall : other.moment.request.isCall = true) : other.begins < shutdown :=
    timeline.begins_lt guarded mem isCall
  obtain ⟨early, _, split, m, quiet, rfl, answered, internal⟩ :=
    led (before.map (·.moment)) span.moment (rest.map (·.moment)) (by simp) edits
  obtain ⟨early, recent, rfl, rfl, last⟩ := List.map_eq_append_iff.1 split
  obtain ⟨call, quiet, rfl, rfl, rfl⟩ := List.map_eq_cons_iff.1 last
  have isCall := Moment.isCall_of_isAnswered answered
  refine ⟨early, call, quiet, rfl, answered, calls call (by simp) isCall, ?_, fun q mem =>
    internal _ (List.mem_map_of_mem mem)⟩
  obtain ⟨-, -, -, -, behind⟩ := timeline_append.1 timeline
  rw [List.append_assoc, List.cons_append, List.map_append, List.map_cons]
  refine lastCall?_of_behind isCall (List.forall_mem_map.2 (List.forall_mem_append.2
    ⟨fun q mem => Request.isCall_of_isInternal (internal _ (List.mem_map_of_mem mem)),
      List.forall_mem_cons.2 ⟨edits.isCall, fun other mem => ?_⟩⟩))
  by_contra isCall
  have early := calls other (by simp [mem]) (by simpa using isCall)
  have := behind.le_begins mem
  omega

/-- A shutdown by the token of a tick, at any time and with storage that does not fail. No call begins
once it has come. The last call of the tick, which may be under way then, is concluded: if it was
answered, the tables show all that its answer calls for and nothing else, and otherwise attempts and
resources are as the call found them; outcomes are all there if the identifiers are apart. Whatever
changes attempts or resources and does not end before the shutdown comes right after this call, which
then was answered. -/
theorem vigilant_tick {settings : Settings} {token : Token} {services : Services} {wanted : Bool}
    {departments : List String} {summary : TickSummary} {shutdown now : Nat} {spans : List Span}
    (built : Services.ofSettings settings token = .ok services)
    (run : Runs (services.tick token wanted departments) s (spans.map (·.moment)) summary after)
    (timeline : Span.Timeline token shutdown now spans)
    (stored : ∀ span ∈ spans, span.moment.Stored) :
    (∀ span ∈ spans, span.moment.request.isCall = true → span.begins < shutdown) ∧
    (∀ m, lastCall? (spans.map (·.moment)) = some m →
      (m.hasOutcomes = true → Fresh s (spans.map (·.moment))) → m.Concluded after) ∧
    (lastCall? (spans.map (·.moment)) = none → s.Keeps after) ∧
    ∀ before span rest, spans = before ++ span :: rest → span.moment.Edits →
      shutdown ≤ span.ends → ∃ early call quiet, before = early ++ call :: quiet ∧
        call.moment.isAnswered = true ∧ call.begins < shutdown ∧
        lastCall? (spans.map (·.moment)) = some call.moment ∧
        ∀ q ∈ quiet, q.moment.request.isInternal = true := by
  obtain ⟨sending, listing⟩ := Services.stemsFrom_of_ofSettings built
  have guarded : Guarded token (spans.map (·.moment)) :=
    Services.looks_tick sending listing wanted departments _ _ _ _ run
  obtain ⟨concluded, -⟩ := services.concludes_tick token wanted departments _ _ _ _ run
    (List.forall_mem_map.2 stored)
  refine ⟨fun span mem isCall => timeline.begins_lt guarded mem isCall, concluded.last,
    concluded.idle, ?_⟩
  rintro before span rest rfl edits late
  exact timeline.after_last guarded concluded.led edits late

namespace Simulation.World

/-- The settings of the sample services. -/
def sampleSettings : Settings where
  sync := { maxCreates := 10 }
  planner := { endpoint := "https://planner" }

theorem ofSettings_sampleSettings :
    Services.ofSettings sampleSettings (.root 0) = .ok sampleServices := by
  have sound : sampleSettings.flaw?.isNone = true := by decide +kernel
  exact Services.ofSettings_eq_ok_iff.2 ⟨Option.isNone_iff_eq_none.1 sound, rfl⟩

/-- The sample department, with a Planner that requests a shutdown when it gets the updates. -/
def interrupted : World :=
  { sample with script := { sample.script with
    replies := fun kind => if kind = .events .update then [{ Reply.standard with cancels := true }]
      else [] } }

/-- An event with attempts that all have the same identifier, and a Planner that requests a shutdown
when it gets the creates if it is told to. -/
def queued (ops : List Operation) (cancels : Bool) : World :=
  let created := atSecond 1000
  let attempt (op : Operation) : Attempt :=
    .pending (.ofNat 11) (.ofNat 1) op ⟨created, created⟩ created
  Session.world (atSecond 2000)
    (.ofEvents [⟨.ofNat 1, "rooms", "item", false, created, ops.map attempt⟩] [])
    ⟨fun _ => [{ Reply.standard with cancels }], [], []⟩ [] false

/-- Moments one after the other that take so long. -/
def stamped (lasts : Request → Nat) : Nat → List Moment → List Span
  | _, [] => []
  | now, m :: t => ⟨m, now, now + lasts m.request⟩ :: stamped lasts (now + lasts m.request) t

theorem moment_stamped (lasts : Request → Nat) (now : Nat) (t : List Moment) :
    (stamped lasts now t).map (·.moment) = t := by
  induction t generalizing now with
  | nil => rfl
  | cons m t ih => rw [stamped, List.map_cons, ih]

/-- Calls take two units of time, and the records of calls one. -/
def lasting : Request → Nat
  | .send _ _ _ _ | .listResources _ _ => 2
  | .insertCall _ | .updateCall _ => 1
  | _ => 0

end Simulation.World

/-- In the sample the shutdown comes during the second of two calls, the one for the updates. -/
theorem vigilant_interrupted :
    ∃ spans, Span.Timeline (.root 0) 6 0 spans ∧
      (spans.map (·.moment)).countP (·.request.isCall) = 2 ∧
      (∀ span ∈ spans, span.moment.request.isCall = true → span.begins < 6) ∧
      ∃ m, lastCall? (spans.map (·.moment)) = some m ∧ m.isAnswered = true ∧
        m.Concluded (World.interrupted.run
          (World.sampleServices.tick (.root 0) false ["rooms"])).1.store := by
  let tick := World.sampleServices.tick (.root 0) false ["rooms"]
  let spans := World.stamped World.lasting 0 (World.interrupted.moments tick)
  obtain ⟨summary, run, -⟩ := World.exists_runs World.interrupted tick rfl (by decide +kernel)
  rw [← World.moment_stamped World.lasting 0 (World.moments _ _)] at run
  have timeline : Span.Timeline (.root 0) 6 0 spans := by decide +kernel
  obtain ⟨calls, last, -⟩ :=
    vigilant_tick World.ofSettings_sampleSettings run timeline (by decide +kernel)
  have found : (lastCall? (spans.map (·.moment))).any (·.isAnswered) = true := by decide +kernel
  obtain ⟨m, same, answered⟩ := (Option.any_eq_true _ _).1 found
  exact ⟨spans, timeline, by decide +kernel, calls, m, same, answered,
    last m same fun _ => by decide +kernel⟩

/-- A shutdown between an answer and what is written because of it: attempts change though no call is
under way. Where two attempts have one identifier, an answer that comes during the shutdown does not
reach both. -/
theorem exists_late_and_lost_outcomes :
    (¬ ∀ (settings : Settings) (token : Token) (services : Services) (wanted : Bool)
      (departments : List String) (s after : Store) (summary : TickSummary) (shutdown now : Nat)
      (spans : List Span), Services.ofSettings settings token = .ok services →
        Runs (services.tick token wanted departments) s (spans.map (·.moment)) summary after →
        Span.Timeline token shutdown now spans → (∀ span ∈ spans, span.moment.Stored) →
        Fresh s (spans.map (·.moment)) →
        ∀ span ∈ spans, span.moment.Edits → shutdown ≤ span.begins →
          ∃ call ∈ spans, call.moment.request.isCall = true ∧ call.begins ≤ shutdown ∧
            shutdown ≤ call.ends) ∧
    ¬ ∀ (settings : Settings) (token : Token) (services : Services) (wanted : Bool)
      (departments : List String) (s after : Store) (summary : TickSummary) (shutdown now : Nat)
      (spans : List Span), Services.ofSettings settings token = .ok services →
        Runs (services.tick token wanted departments) s (spans.map (·.moment)) summary after →
        Span.Timeline token shutdown now spans → (∀ span ∈ spans, span.moment.Stored) →
        ∀ call ∈ spans, call.begins < shutdown → shutdown < call.ends →
          ∀ results ∈ call.moment.reply? .create, ∀ a ∈ call.moment.sent,
            (∃ r ∈ results, r.attempt = a.id) → a ∉ after.attempts := by
  let tick := World.sampleServices.tick (.root 0) false ["rooms"]
  constructor
  · intro within
    let world := World.queued [.create] false
    let spans := World.stamped World.lasting 0 (world.moments tick)
    obtain ⟨summary, run, -⟩ := World.exists_runs world tick rfl (by decide +kernel)
    rw [← World.moment_stamped World.lasting 0 (World.moments _ _)] at run
    have found := within _ _ _ _ _ _ _ _ 4 0 spans World.ofSettings_sampleSettings run
      (by decide +kernel) (by decide +kernel) (by decide +kernel)
    revert found
    decide +kernel
  · intro recorded
    let world := World.queued [.delete, .create] true
    let spans := World.stamped World.lasting 0 (world.moments tick)
    obtain ⟨summary, run, -⟩ := World.exists_runs world tick rfl (by decide +kernel)
    rw [← World.moment_stamped World.lasting 0 (World.moments _ _)] at run
    have found := recorded _ _ _ _ _ _ _ _ 2 0 spans World.ofSettings_sampleSettings run
      (by decide +kernel) (by decide +kernel)
    revert found
    decide +kernel

end CalendarSync
