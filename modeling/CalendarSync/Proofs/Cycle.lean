import CalendarSync.Cycle
import CalendarSync.Proofs.Outcome
import CalendarSync.Proofs.Repetition
import CalendarSync.Proofs.Store

/-!
# The steps of a cycle

What a run of each part of a cycle can do, the failures of the storage included: a call leaves the
queue alone, and an attempt is recorded or closed in one of a few ways. Later modules take cycles
apart by these lemmas only.
-/

namespace CalendarSync.Cycle
set_option autoImplicit false
open Program Simulation

variable {s after : Store} {t : List Moment}

/-! ## Calls -/

/-- A moment of a call: its group is sent, or it asks for a shutdown, or it waits to be repeated. -/
def Calling (s : Store) (op : Operation) (group : List Attempt) (m : Moment) : Prop :=
  m.store = s ∧
    ((∃ correlation limit, m.request = .send op group correlation limit) ∨
      (∃ token, m.request = .isCancelled token) ∨
        ∃ token policy retry, m.request = .pause token policy retry)

section Calling
variable {op : Operation} {group : List Attempt} {m : Moment}

theorem Calling.fault? (h : Calling s op group m) : m.fault? = none := by
  obtain ⟨store, request, answer⟩ := m
  obtain ⟨-, ⟨_, _, rfl⟩ | ⟨_, rfl⟩ | ⟨_, _, _, rfl⟩⟩ := h <;> rfl

theorem Calling.sent (h : Calling s op group m) : m.sent = [] ∨ m.sent = group := by
  obtain ⟨store, request, answer⟩ := m
  obtain ⟨-, ⟨_, _, rfl⟩ | ⟨_, rfl⟩ | ⟨_, _, _, rfl⟩⟩ := h
  · exact .inr rfl
  · exact .inl rfl
  · exact .inl rfl

theorem Calling.call? (h : Calling s op group m) (other : Operation) : m.call? other = none := by
  obtain ⟨store, request, answer⟩ := m
  obtain ⟨-, ⟨_, _, rfl⟩ | ⟨_, rfl⟩ | ⟨_, _, _, rfl⟩⟩ := h <;> rfl

theorem Calling.idle (h : Calling s op group m) : m.Idle := by
  obtain ⟨store, request, answer⟩ := m
  obtain ⟨-, ⟨_, _, rfl⟩ | ⟨_, rfl⟩ | ⟨_, _, _, rfl⟩⟩ := h <;> rfl

/-- A call of one operation is none of another. -/
theorem Calling.reply? (h : Calling s op group m) {other : Operation} (ne : op ≠ other) :
    m.reply? other = none := by
  obtain ⟨store, request, answer⟩ := m
  obtain ⟨-, ⟨_, _, rfl⟩ | ⟨_, rfl⟩ | ⟨_, _, _, rfl⟩⟩ := h
  · cases answer with
    | ok results => exact if_neg ne
    | error e => rfl
  · rfl
  · rfl

end Calling

/-- A call leaves the tables alone, and its answer is the Planner's first reply. -/
theorem runs_perform {policy : CallPolicy} {label : String} {op : Operation}
    {group : List Attempt} {correlation : String} {limit : Duration}
    {answer : Except DomainError (List ItemResult)}
    (run : Runs (policy.perform label (Program.request (.send op group correlation limit)))
      s t answer after) :
    after = s ∧ (∀ m ∈ t, Calling s op group m) ∧
      t.findSome? (Moment.reply? op) = answer.toOption := by
  have once : Asks (fun m => Calling m.store op group m) (Moment.reply? op)
      (Program.request (.send op group correlation limit)) := by
    intro s t answer after run
    obtain ⟨rfl, rfl⟩ := runs_request_iff.1 run
    refine ⟨rfl, by simp [Calling], ?_⟩
    cases answer with
    | ok results => simp [Except.toOption]
    | error e => rfl
  have waiting : Moment.Waiting (fun m => Calling m.store op group m) (Moment.reply? op) :=
    ⟨fun _ _ _ => ⟨⟨rfl, .inr (.inl ⟨_, rfl⟩)⟩, rfl⟩,
      fun _ _ _ _ _ => ⟨⟨rfl, .inr (.inr ⟨_, _, _, rfl⟩)⟩, rfl⟩⟩
  obtain ⟨same, calling, found⟩ := once.perform waiting _ _ _ _ run
  exact ⟨same, fun m mem => (calling m mem).1 ▸ (calling m mem).2, found⟩

/-- A moment of a group's turn leaves the queue alone and sends nothing but the group. -/
structure Sending (s : Store) (op : Operation) (group : List Attempt) (m : Moment) : Prop where
  alike : s.Alike m.store
  sent : m.sent = [] ∨ m.sent = group
  idle : m.Idle
  other : ∀ op', op ≠ op' → m.reply? op' = none ∧ m.call? op' = none

theorem Calling.sending {op : Operation} {group : List Attempt} {m : Moment} (alike : s.Alike after)
    (h : Calling after op group m) : Sending s op group m :=
  ⟨h.1 ▸ alike, h.sent, h.idle, fun op' ne => ⟨h.reply? ne, h.call? op'⟩⟩

/-- Keeping the record of a call is part of its group's turn. -/
theorem Sending.keeping {op : Operation} {group : List Attempt} {m : Moment}
    (alike : s.Alike m.store)
    (keeping : match m.request with
      | .now | .freshId | .updateCall _ => True
      | .insertCall call => call.operation = op
      | _ => False) : Sending s op group m := by
  obtain ⟨store, request, answer⟩ := m
  cases request with
  | now => exact ⟨alike, .inl rfl, rfl, fun _ _ => ⟨rfl, rfl⟩⟩
  | freshId => exact ⟨alike, .inl rfl, rfl, fun _ _ => ⟨rfl, rfl⟩⟩
  | updateCall call => exact ⟨alike, .inl rfl, rfl, fun _ _ => ⟨rfl, rfl⟩⟩
  | insertCall call =>
    obtain rfl : call.operation = op := keeping
    refine ⟨alike, .inl rfl, rfl, fun _ ne => ⟨rfl, ?_⟩⟩
    cases answer with
    | ok u => exact if_neg ne
    | error e => rfl
  | _ => exact keeping.elim

/-- The end of a group's turn: the call's record is closed. -/
theorem runs_finish {call : Call} {α : Type} {value result : α}
    (run : Runs (Program.request (.updateCall call) >>= fun _ => pure value)
      s t result after) :
    s.Alike after ∧ result = value ∧
      ∃ answer : Except DomainError Unit, t = [⟨s, .updateCall call, answer⟩] := by
  obtain ⟨answer, _, _, wrote, rfl, last⟩ := runs_request_bind_iff.1 run
  obtain ⟨rfl, rfl, rfl⟩ := runs_pure_iff.1 last
  refine ⟨?_, rfl, answer, rfl⟩
  cases answer with
  | ok u =>
    have changed : s.updateCall call = .ok after := wrote
    exact Store.alike_updateCall changed
  | error e =>
    obtain rfl : after = s := wrote
    exact Store.Alike.refl _

/-- A group's turn leaves the queue alone. It answers what the Planner first replied, and the
identifier under which the call was recorded. -/
theorem runs_sendGroup {policy : CallPolicy} {op : Operation} {group : List Attempt}
    {result : Except DomainError (Uuid × List ItemResult)}
    (run : Runs (sendGroup policy op group) s t result after) :
    s.Alike after ∧ (∀ m ∈ t, Sending s op group m) ∧
      t.findSome? (Moment.reply? op) = result.toOption.map (·.2) ∧
      ∀ answer, result = .ok answer → t.findSome? (Moment.call? op) = some answer.1 := by
  unfold sendGroup at run
  obtain ⟨correlation, _, _, rfl, rfl, run₁⟩ := runs_request_bind_iff.1 run
  obtain ⟨startedAt, _, _, rfl, rfl, run₂⟩ := runs_request_bind_iff.1 run₁
  obtain ⟨id, s, _, rfl, rfl, run₃⟩ := runs_request_bind_iff.1 run₂
  obtain ⟨opened, middle, rest, wrote, rfl, run₄⟩ := runs_request_bind_iff.1 run₃
  have here : s.Alike s := Store.Alike.refl s
  cases opened with
  | error e =>
    obtain rfl : middle = s := wrote
    obtain ⟨rfl, rfl, rfl⟩ := runs_pure_iff.1 run₄
    refine ⟨here, ?_, rfl, fun _ h => by cases h⟩
    simpa only [List.forall_mem_cons] using ⟨.keeping here trivial, .keeping here trivial,
      .keeping here trivial, .keeping here rfl, by simp⟩
  | ok u =>
    have alike : s.Alike middle := by
      obtain rfl : s.insertCall _ = middle := Except.ok.inj wrote
      exact Store.alike_insertCall s _
    obtain ⟨reply, _, first, _, rfl, calls, run₅⟩ := runs_bind_iff.1 run₄
    obtain ⟨rfl, calling, found⟩ := runs_perform calls
    obtain ⟨endedAt, last, more, rfl, rfl, run₆⟩ := runs_request_bind_iff.1 run₅
    have known : last.Alike after ∧ result = reply.map (id, ·) ∧
        ∃ call, ∃ answer : Except DomainError Unit, more = [⟨last, .updateCall call, answer⟩] := by
      cases reply with
      | ok results =>
        obtain ⟨close, rfl, answer, rfl⟩ := runs_finish run₆
        exact ⟨close, rfl, _, answer, rfl⟩
      | error e =>
        obtain ⟨close, rfl, answer, rfl⟩ := runs_finish run₆
        exact ⟨close, rfl, _, answer, rfl⟩
    obtain ⟨close, rfl, call, closed, rfl⟩ := known
    refine ⟨alike.trans close, ?_, ?_, ?_⟩
    · have sending : ∀ m ∈ first, Sending s op group m := fun m mem => (calling m mem).sending alike
      simp only [List.forall_mem_cons, List.forall_mem_append]
      exact ⟨.keeping here trivial, .keeping here trivial, .keeping here trivial,
        .keeping here rfl, sending, .keeping alike trivial, .keeping alike trivial, by simp⟩
    · show (first ++ _).findSome? _ = _
      rw [List.findSome?_append, found]
      cases reply <;> rfl
    · intro answer answered
      cases reply with
      | ok results =>
        obtain rfl := Except.ok.inj answered
        simp [List.findSome?_cons, Call.start]
      | error e => cases answered

/-! ## Recording answers -/

/-- What counting an answered attempt can do: only a transient failure makes requests, and these
propose the attempt again. -/
theorem runs_count {a : Attempt} {c : Completion} {report result : CycleReport}
    (run : Runs (count (a.complete c) report) s t result after) :
    (t = [] ∧ after = s ∧ (a.complete c).isTransient = false) ∨
    ∃ createdAt id answer,
      (a.complete c).isTransient = true ∧
        s.Writes (.ok (s.insertAttempt (a.again id a.operation createdAt))) answer after ∧
        t = [⟨s, .now, createdAt⟩, ⟨s, .freshId, id⟩,
          ⟨s, .insertAttempt (a.again id a.operation createdAt), answer⟩] := by
  unfold count at run
  have lasting (other : ∀ code, (a.complete c).outcome ≠ .ok (.transient code)) :
      (a.complete c).isTransient = false := by
    rw [← Bool.not_eq_true, ← Attempt.outcome_complete_transient_iff]
    exact fun ⟨code, h⟩ => other code h
  have silent {report' : CycleReport} (other : ∀ code, (a.complete c).outcome ≠ .ok (.transient code))
      (run : Runs (pure report') s t result after) :
      t = [] ∧ after = s ∧ (a.complete c).isTransient = false := by
    obtain ⟨rfl, rfl, rfl⟩ := runs_pure_iff.1 run
    exact ⟨rfl, rfl, lasting other⟩
  cases outcome : (a.complete c).outcome with
  | error e =>
    rw [outcome] at run
    exact .inl (silent (by simp [outcome]) run)
  | ok o =>
    rw [outcome] at run
    cases o with
    | transient code =>
      obtain ⟨createdAt, _, _, rfl, rfl, run₁⟩ := runs_request_bind_iff.1 run
      obtain ⟨id, _, _, rfl, rfl, run₂⟩ := runs_request_bind_iff.1 run₁
      obtain ⟨answer, _, _, wrote, rfl, last⟩ := runs_request_bind_iff.1 run₂
      have transient := Attempt.outcome_complete_transient_iff.1 ⟨code, outcome⟩
      cases answer with
      | ok u =>
        obtain ⟨rfl, -, rfl⟩ := runs_pure_iff.1 last
        exact .inr ⟨createdAt, id, .ok u, transient, wrote, rfl⟩
      | error e =>
        obtain ⟨rfl, -, rfl⟩ := runs_pure_iff.1 last
        exact .inr ⟨createdAt, id, .error e, transient, wrote, rfl⟩
    | _ => exact .inl (silent (by simp [outcome]) run)

/-- What recording the answer for an attempt can do. The table of recorded outcomes grows if the
storage takes the outcome, and a transient failure is then proposed again. -/
inductive Recording (call : Uuid) (results : List ItemResult) (syncedAt : Timestamp)
    (recorded : List (Uuid × Completion)) (a : Attempt) (s : Store) :
    List Moment → List (Uuid × Completion) → Store → Prop where
  | unanswered (unknown : ItemResult.lastFor? results a.id = none) :
      Recording call results syncedAt recorded a s [] recorded s
  | lost {r : ItemResult} (e : DomainError) (found : ItemResult.lastFor? results a.id = some r) :
      Recording call results syncedAt recorded a s
        [⟨s, .completeAttempt a.id (r.completion syncedAt call), .error e⟩] recorded s
  | closed {r : ItemResult} {after : Store}
      (found : ItemResult.lastFor? results a.id = some r)
      (wrote : s.completeAttempt a.id (r.completion syncedAt call) = .ok after)
      (lasting : (a.complete (r.completion syncedAt call)).isTransient = false) :
      Recording call results syncedAt recorded a s
        [⟨s, .completeAttempt a.id (r.completion syncedAt call), .ok ()⟩]
        ((a.id, r.completion syncedAt call) :: recorded) after
  | again {r : ItemResult} {middle after : Store} {createdAt : Timestamp} {id : Uuid}
      {answer : Except DomainError Unit}
      (found : ItemResult.lastFor? results a.id = some r)
      (wrote : s.completeAttempt a.id (r.completion syncedAt call) = .ok middle)
      (transient : (a.complete (r.completion syncedAt call)).isTransient = true)
      (proposed : middle.Writes (.ok (middle.insertAttempt (a.again id a.operation createdAt)))
        answer after) :
      Recording call results syncedAt recorded a s
        [⟨s, .completeAttempt a.id (r.completion syncedAt call), .ok ()⟩,
          ⟨middle, .now, createdAt⟩, ⟨middle, .freshId, id⟩,
          ⟨middle, .insertAttempt (a.again id a.operation createdAt), answer⟩]
        ((a.id, r.completion syncedAt call) :: recorded) after

/-- The Planner's answers name their call. -/
theorem call_completion (r : ItemResult) (syncedAt : Timestamp) (call : Uuid) :
    (r.completion syncedAt call).call = some call := by
  unfold ItemResult.completion
  split <;> rfl

theorem isSome_call_completion (r : ItemResult) (syncedAt : Timestamp) (call : Uuid) :
    (r.completion syncedAt call).call.isSome = true := by
  rw [call_completion]
  rfl

/-- Every recorded outcome names its call. -/
def Called (recorded : List (Uuid × Completion)) : Prop :=
  ∀ p ∈ recorded, p.2.call.isSome = true

theorem Recording.called {call : Uuid} {results : List ItemResult} {syncedAt : Timestamp}
    {recorded recorded' : List (Uuid × Completion)} {a : Attempt} (called : Called recorded)
    (recording : Recording call results syncedAt recorded a s t recorded' after) :
    Called recorded' := by
  cases recording with
  | unanswered unknown => exact called
  | lost e found => exact called
  | closed found wrote lasting =>
    exact List.forall_mem_cons.2 ⟨isSome_call_completion _ _ _, called⟩
  | again found wrote transient proposed =>
    exact List.forall_mem_cons.2 ⟨isSome_call_completion _ _ _, called⟩

/-- Nothing is sent and no call is opened. -/
structure Quiet (m : Moment) : Prop where
  sent : m.sent = []
  silent : ∀ op, m.reply? op = none ∧ m.call? op = none

theorem Recording.quiet {call : Uuid} {results : List ItemResult} {syncedAt : Timestamp}
    {recorded recorded' : List (Uuid × Completion)} {a : Attempt}
    (recording : Recording call results syncedAt recorded a s t recorded' after) :
    ∀ m ∈ t, Quiet m := by
  intro m mem
  cases recording with
  | unanswered unknown => cases mem
  | lost e found =>
    obtain rfl := List.mem_singleton.1 mem
    exact ⟨rfl, fun _ => ⟨rfl, rfl⟩⟩
  | closed found wrote lasting =>
    obtain rfl := List.mem_singleton.1 mem
    exact ⟨rfl, fun _ => ⟨rfl, rfl⟩⟩
  | again found wrote transient proposed =>
    simp only [List.mem_cons, List.not_mem_nil, or_false] at mem
    obtain rfl | rfl | rfl | rfl := mem <;> exact ⟨rfl, fun _ => ⟨rfl, rfl⟩⟩

theorem runs_recordOne {call : Uuid} {results : List ItemResult} {syncedAt : Timestamp}
    {progress next : Progress} {a : Attempt}
    (run : Runs (recordOne call results syncedAt progress a) s t next after) :
    Recording call results syncedAt progress.recorded a s t next.recorded after := by
  unfold recordOne at run
  cases found : ItemResult.lastFor? results a.id with
  | none =>
    rw [found] at run
    obtain ⟨rfl, rfl, rfl⟩ := runs_pure_iff.1 run
    exact .unanswered found
  | some r =>
    rw [found] at run
    obtain ⟨answer, middle, _, wrote, rfl, run₁⟩ := runs_request_bind_iff.1 run
    cases answer with
    | error e =>
      obtain rfl : middle = s := wrote
      obtain ⟨rfl, rfl, rfl⟩ := runs_pure_iff.1 run₁
      exact .lost e found
    | ok u =>
      obtain ⟨report, _, first, rest, rfl, counted, last⟩ := runs_bind_iff.1 run₁
      obtain ⟨rfl, rfl, rfl⟩ := runs_pure_iff.1 last
      rw [List.append_nil]
      obtain ⟨rfl, rfl, lasting⟩ | ⟨createdAt, id, answer, transient, proposed, rfl⟩ :=
        runs_count counted
      · exact .closed found wrote lasting
      · exact .again found wrote transient proposed

/-- Recording the answers for a group is quiet. -/
theorem quiet_record {call : Uuid} {results : List ItemResult} {syncedAt : Timestamp}
    {group : List Attempt} {progress next : Progress}
    (run : Runs (group.foldlM (recordOne call results syncedAt) progress) s t next after) :
    ∀ m ∈ t, Quiet m := by
  refine (runs_foldlM (fun _ _ _ => True) ?_ trivial run fun _ _ => trivial).2
  intro a l progress s t next after _ run _
  exact ⟨trivial, (runs_recordOne run).quiet⟩

/-- What closing a superseded update can do. -/
inductive Closing (b : Batch) (recorded : List (Uuid × Completion)) (a : Attempt) (s : Store) :
    List Moment → Store → Prop where
  | kept (unknown : ((b.winner? a).bind fun w => recorded.lookup w.id) = none) :
      Closing b recorded a s [] s
  | lost {c : Completion} (e : DomainError)
      (found : ((b.winner? a).bind fun w => recorded.lookup w.id) = some c) :
      Closing b recorded a s [⟨s, .completeAttempt a.id c, .error e⟩] s
  | closed {c : Completion} {after : Store}
      (found : ((b.winner? a).bind fun w => recorded.lookup w.id) = some c)
      (wrote : s.completeAttempt a.id c = .ok after) :
      Closing b recorded a s [⟨s, .completeAttempt a.id c, .ok ()⟩] after

theorem Closing.quiet {b : Batch} {recorded : List (Uuid × Completion)} {a : Attempt}
    (closing : Closing b recorded a s t after) : ∀ m ∈ t, Quiet m := by
  intro m mem
  cases closing with
  | kept unknown => cases mem
  | lost e found =>
    obtain rfl := List.mem_singleton.1 mem
    exact ⟨rfl, fun _ => ⟨rfl, rfl⟩⟩
  | closed found wrote =>
    obtain rfl := List.mem_singleton.1 mem
    exact ⟨rfl, fun _ => ⟨rfl, rfl⟩⟩

theorem runs_closeOne {b : Batch} {progress next : Progress} {a : Attempt}
    (run : Runs (closeOne b progress a) s t next after) :
    Closing b progress.recorded a s t after ∧ next.recorded = progress.recorded := by
  unfold closeOne at run
  cases found : (b.winner? a).bind fun w => progress.recorded.lookup w.id with
  | none =>
    rw [found] at run
    obtain ⟨rfl, rfl, rfl⟩ := runs_pure_iff.1 run
    exact ⟨.kept found, rfl⟩
  | some c =>
    rw [found] at run
    obtain ⟨answer, middle, _, wrote, rfl, last⟩ := runs_request_bind_iff.1 run
    cases answer with
    | error e =>
      obtain rfl : middle = s := wrote
      obtain ⟨rfl, rfl, rfl⟩ := runs_pure_iff.1 last
      exact ⟨.lost e found, rfl⟩
    | ok u =>
      obtain ⟨rfl, rfl, rfl⟩ := runs_pure_iff.1 last
      exact ⟨.closed found wrote, rfl⟩

/-- Closing superseded updates is quiet. -/
theorem quiet_close {b : Batch} {l : List Attempt} {progress next : Progress}
    (run : Runs (l.foldlM (closeOne b) progress) s t next after) : ∀ m ∈ t, Quiet m := by
  refine (runs_foldlM (fun _ _ _ => True) ?_ trivial run fun _ _ => trivial).2
  intro a l progress s t next after _ run _
  exact ⟨trivial, (runs_closeOne run).1.quiet⟩

/-! ## Turns -/

/-- The superseded updates that are closed after an answered group: there are some after the group
of updates. -/
def toClose (queue : List Attempt) (b : Batch) (op : Operation) : List Attempt :=
  if op = .update then queue.filter fun a => b.superseded.contains a.id else []

theorem mem_toClose {queue : List Attempt} {b : Batch} {op : Operation} {a : Attempt} :
    a ∈ toClose queue b op ↔ op = .update ∧ a ∈ queue ∧ a.id ∈ b.superseded := by
  unfold toClose
  split <;> simp [*]

/-- What happens from the turn of a group on. -/
inductive Turn (policy : CallPolicy) (queue : List Attempt) (b : Batch) (op : Operation)
    (group : List Attempt) (rest : List (Operation × List Attempt)) (progress : Progress)
    (s : Store) : List Moment → Except DomainError CycleReport → Store → Prop where
  | shutdown {e : DomainError} {t : List Moment} {after : Store}
      (sent : Runs (sendGroup policy op group) s t (.error e) after)
      (stopped : e.isShutdown = true) :
      Turn policy queue b op group rest progress s t (.error e) after
  | failed {e : DomainError} {t t' : List Moment} {next : Progress} {middle after : Store}
      {result : Except DomainError CycleReport}
      (sent : Runs (sendGroup policy op group) s t (.error e) middle)
      (kept : next.recorded = progress.recorded)
      (more : Runs (sendGroups policy queue b rest next) middle t' result after)
      (reported : next.report = { progress.report with
        failedGroups := progress.report.failedGroups ++ [⟨op, group.length, e⟩] })
      (unstopped : e.isShutdown = false) :
      Turn policy queue b op group rest progress s (t ++ t') result after
  | answered {call : Uuid} {results : List ItemResult} {syncedAt : Timestamp}
      {t₁ t₂ t₃ t₄ : List Moment} {progress₁ progress₂ progress₃ : Progress}
      {s₁ s₂ s₃ after : Store} {result : Except DomainError CycleReport}
      (sent : Runs (sendGroup policy op group) s t₁ (.ok (call, results)) s₁)
      (kept : progress₁.recorded = progress.recorded)
      (recording : Runs (group.foldlM (recordOne call results syncedAt) progress₁)
        s₁ t₂ progress₂ s₂)
      (closing : Runs ((toClose queue b op).foldlM (closeOne b) progress₂) s₂ t₃ progress₃ s₃)
      (more : Runs (sendGroups policy queue b rest progress₃) s₃ t₄ result after)
      (reported : progress₁.report = { progress.report with
        sent := progress.report.sent + group.length }) :
      Turn policy queue b op group rest progress s
        (t₁ ++ ⟨s₁, .now, syncedAt⟩ :: (t₂ ++ (t₃ ++ t₄))) result after

theorem runs_sendGroups_nil {policy : CallPolicy} {queue : List Attempt} {b : Batch}
    {progress : Progress} {result : Except DomainError CycleReport}
    (run : Runs (sendGroups policy queue b [] progress) s t result after) : t = [] ∧ after = s := by
  obtain ⟨rfl, -, rfl⟩ := runs_pure_iff.1 run
  exact ⟨rfl, rfl⟩

theorem runs_sendGroups_cons {policy : CallPolicy} {queue : List Attempt} {b : Batch}
    {op : Operation} {group : List Attempt} {rest : List (Operation × List Attempt)}
    {progress : Progress} {result : Except DomainError CycleReport}
    (run : Runs (sendGroups policy queue b ((op, group) :: rest) progress) s t result after) :
    Turn policy queue b op group rest progress s t result after := by
  unfold sendGroups at run
  obtain ⟨answer, middle, first, _, rfl, sent, run₁⟩ := Service.runs_lift_bind_iff.1 run
  cases answer with
  | error e =>
    by_cases shutdown : e.isShutdown = true
    · simp only [shutdown, if_true] at run₁
      obtain ⟨rfl, rfl, rfl⟩ := Service.runs_throw_iff.1 run₁
      rw [List.append_nil]
      exact .shutdown sent shutdown
    · simp only [shutdown] at run₁
      refine .failed sent ?_ run₁ ?_ (Bool.eq_false_iff.2 shutdown) <;> rfl
  | ok answer =>
    obtain ⟨call, results⟩ := answer
    obtain ⟨progress₂, s₂, _, _, rfl, record, run₂⟩ := Service.runs_lift_bind_iff.1 run₁
    obtain ⟨syncedAt, _, _, rfl, rfl, recording⟩ := runs_request_bind_iff.1 record
    by_cases update : op = .update
    · simp only [update, if_true] at run₂
      obtain ⟨progress₃, s₃, _, _, rfl, closing, more⟩ := Service.runs_lift_bind_iff.1 run₂
      refine .answered sent ?_ recording ?_ more ?_
      · rfl
      · rw [toClose, if_pos update]
        exact closing
      · rfl
    · simp only [update] at run₂
      have nothing : Runs ((toClose queue b op).foldlM (closeOne b) progress₂) s₂ [] progress₂ s₂ := by
        rw [toClose, if_neg update]
        exact runs_pure_iff.2 ⟨rfl, rfl, rfl⟩
      refine .answered sent ?_ recording nothing run₂ ?_ <;> rfl

/-- The progress of a cycle that has sent nothing yet: creates beyond the cap are deferred. -/
def opening (queue : List Attempt) (maxCreates : Nat) (department : String) : Progress :=
  ⟨{ CycleReport.empty department with
    deferredCreates := (queue.filter fun a => a.isPending && a.operation == .create).length -
      (Batch.build queue maxCreates).creates.length }, []⟩

/-- A cycle reads the queue of its department and sends the groups of a batch. -/
theorem runs_run {policy : CallPolicy} {maxCreates : Nat} {department : String}
    {result : Except DomainError CycleReport}
    (run : Runs (Cycle.run policy maxCreates department) s t result after) :
    (∃ e, t = [⟨s, .pendingAttempts department, .error e⟩] ∧ after = s ∧ result = .error e) ∨
    ∃ rest,
      t = ⟨s, .pendingAttempts department, .ok (s.pending department)⟩ :: rest ∧
        Runs (sendGroups policy (s.pending department)
          (Batch.build (s.pending department) maxCreates)
          (Batch.build (s.pending department) maxCreates).groups
          (opening (s.pending department) maxCreates department)) s rest result after := by
  unfold Cycle.run at run
  obtain ⟨e, rfl, read⟩ | ⟨queue, middle, _, rest, rfl, read, sent⟩ := Service.runs_bind_iff.1 run
  · obtain ⟨⟨rfl, -⟩, rfl⟩ := runs_request_iff.1 read
    exact .inl ⟨e, rfl, rfl, rfl⟩
  · obtain ⟨⟨rfl, listed⟩, rfl⟩ := runs_request_iff.1 read
    obtain rfl := listed queue rfl
    exact .inr ⟨rest, rfl, sent⟩

end CalendarSync.Cycle
