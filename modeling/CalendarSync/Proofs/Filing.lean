import CalendarSync.Proofs.Dating
import CalendarSync.Proofs.Footprint
import CalendarSync.Proofs.Store
import CalendarSync.Proofs.Tries

/-!
# The records of calls

With storage that does not fail, the turn of a group leaves one record at the end of the table of
calls. The record is closed, every try of the call carries its correlation, and it tells of success
exactly if the call was answered.
-/

namespace CalendarSync
set_option autoImplicit false
open Program Simulation

/-- A record that stands last is replaced by the one with its identifier. -/
theorem Simulation.Store.updateCall_last {s : Store} {old : List Call} {opened c : Call}
    (rows : s.calls = old ++ [opened]) (same : opened.id = c.id)
    (new : ∀ d ∈ old, d.id ≠ c.id) : s.updateCall c = .ok { s with calls := old ++ [c] } := by
  have changed : changeFirst? (fun d : Call => decide (d.id = c.id)) (fun _ => c) s.calls =
      some (old ++ [c]) := by
    refine changeFirst?_eq_some_iff.2 ⟨old, opened, [], rows, fun d mem => ?_, ?_, rfl⟩
    · exact decide_eq_false (new d mem)
    · exact decide_eq_true same
  rw [updateCall, changed]

/-- What a clock that does not go back shows later is no earlier. -/
theorem le_of_readings {t t' : List Moment} {x y : Timestamp}
    (clock : (readings (t ++ t')).Pairwise (· ≤ ·)) (first : x ∈ readings t)
    (second : y ∈ readings t') : x ≤ y := by
  rw [readings, List.filterMap_append] at clock
  exact (List.pairwise_append.1 clock).2.2 x first y second

namespace Cycle
variable {policy : CallPolicy} {op : Operation} {group : List Attempt} {s after : Store}
  {t : List Moment} {result : Except DomainError (Uuid × List ItemResult)}

/-- The record that the turn of a group leaves. -/
structure Filed (op : Operation) (group : List Attempt) (t : List Moment)
    (result : Except DomainError (Uuid × List ItemResult)) (record : Call) : Prop where
  operation : record.operation = op
  correlated : ∀ m ∈ t, m.request.isCall = true →
    ∃ limit, m.request = .send op group record.correlation limit
  ended : ∃ instant ∈ readings t, record.endedAt = some instant ∧ record.startedAt ≤ instant
  success : record.success = some result.isOk
  identified : record.id ∈ issued t
  named : ∀ answer, result = .ok answer → answer.1 = record.id

/-- The turn of a group adds the record of its call, and changes nothing else. -/
theorem filed_sendGroup (run : Runs (sendGroup policy op group) s t result after)
    (stored : ∀ m ∈ t, m.Stored) (clock : (readings t).Pairwise (· ≤ ·))
    (fresh : ∀ id ∈ issued t, ∀ c ∈ s.calls, c.id ≠ id) :
    ∃ record, Filed op group t result record ∧
      after = { s with calls := s.calls ++ [record] } := by
  cases posting_sendGroup run stored with
  | @posted correlation id startedAt endedAt opened _ calls final reply response opens tries replied
      closes =>
    have shown : endedAt ∈ readings (calls ++ [⟨opened, .now, endedAt⟩, ⟨opened, .updateCall
        ((Call.start id op correlation.text startedAt).finish reply.isOk response endedAt),
        .ok ()⟩]) :=
      List.mem_filterMap.2 ⟨⟨opened, .now, endedAt⟩, by simp, rfl⟩
    have forward : startedAt ≤ endedAt := by
      refine le_of_readings clock ?_ shown
      exact List.mem_filterMap.2 ⟨⟨s, .now, startedAt⟩, by simp, rfl⟩
    have new : ∀ c ∈ s.calls, c.id ≠ id :=
      fresh id (List.mem_filterMap.2 ⟨⟨s, .freshId, id⟩, by simp, rfl⟩)
    have rows : opened.calls = s.calls ++ [.start id op correlation.text startedAt] := by
      rw [opens]
      rfl
    rw [Store.updateCall_last (c := (Call.start id op correlation.text startedAt).finish reply.isOk
      response endedAt) rows rfl new, opens] at closes
    refine ⟨(Call.start id op correlation.text startedAt).finish reply.isOk response endedAt,
      ⟨rfl, ?_, ⟨endedAt, ?_, rfl, forward⟩, ?_, ?_, ?_⟩, (Except.ok.inj closes).symm⟩
    · intro m mem isCall
      simp only [List.mem_append, List.mem_cons, List.not_mem_nil, or_false] at mem
      obtain (rfl | rfl | rfl | rfl) | mem | rfl | rfl := mem <;> try cases isCall
      obtain ⟨-, rfl, -⟩ | tries := tries
      · cases mem
      · obtain ⟨_, rfl⟩ | ⟨_, _, _, rfl⟩ | ⟨_, rfl⟩ := tries.mem m mem
        · cases isCall
        · cases isCall
        · exact ⟨_, rfl⟩
    · obtain ⟨m, mem, reading⟩ := List.mem_filterMap.1 shown
      exact List.mem_filterMap.2 ⟨m, List.mem_append_right _ mem, reading⟩
    · cases reply <;> rfl
    · exact List.mem_filterMap.2 ⟨⟨s, .freshId, id⟩, by simp, rfl⟩
    · intro answer answered
      cases reply with
      | ok results =>
        cases answered
        rfl
      | error e => cases answered

end Cycle
end CalendarSync
