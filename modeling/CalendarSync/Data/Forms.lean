import CalendarSync.Call
import CalendarSync.Data.Decode
import CalendarSync.DomainError
import CalendarSync.Event
import CalendarSync.Resource
import CalendarSync.Settings

/-!
# Persisted forms

The records of the library as data values: the names of their fields, and how they are read back.
-/

namespace CalendarSync
set_option autoImplicit false

open Data Data.Value

namespace Operation

/-- An operation as a value. -/
def encode (op : Operation) : Value := .text op.name

/-- Reads an operation. -/
def decode? : Value → Option Operation := toChoice? ofName?

end Operation

namespace Window

/-- A window as a value. -/
def encode (w : Window) : Value :=
  .record [("start", ofTimestamp w.start), ("end", ofTimestamp w.stop)]

/-- Reads a window. -/
def decode? (v : Value) : Option Window :=
  match v.slots? ["start", "end"] with
  | some [start, stop] =>
    return ⟨← start.required toTimestamp?, ← stop.required toTimestamp?⟩
  | _ => none

end Window

namespace Completion

/-- A completion as a value. -/
def encode (c : Completion) : Value :=
  .record [("synced_at", ofTimestamp c.syncedAt), ("remote_success", .bool c.success),
    ("remote_error_code", ofOption ofInt32 c.errorCode),
    ("service_call_reference_id", ofOption ofUuid c.call)]

/-- Reads a completion. -/
def decode? (v : Value) : Option Completion :=
  match v.slots? ["synced_at", "remote_success", "remote_error_code",
    "service_call_reference_id"] with
  | some [syncedAt, success, errorCode, call] =>
    return ⟨← syncedAt.required toTimestamp?, ← success.required toBool?,
      ← errorCode.optional toInt32?, ← call.optional toUuid?⟩
  | _ => none

end Completion

namespace Attempt

/-- An attempt as a value. -/
def encode (a : Attempt) : Value :=
  .record [("id", ofUuid a.id), ("event_id", ofUuid a.event), ("operation", a.operation.encode),
    ("calendar_start", ofTimestamp a.window.start), ("calendar_end", ofTimestamp a.window.stop),
    ("created_at", ofTimestamp a.createdAt), ("synced_at", ofOption ofTimestamp a.syncedAt),
    ("remote_success", ofOption .bool a.success),
    ("remote_error_code", ofOption ofInt32 a.errorCode),
    ("conflict_notification_sent", .bool a.conflictNotified),
    ("service_call_reference_id", ofOption ofUuid a.call)]

/-- Reads an attempt. -/
def decode? (v : Value) : Option Attempt :=
  match v.slots? ["id", "event_id", "operation", "calendar_start", "calendar_end", "created_at",
    "synced_at", "remote_success", "remote_error_code", "conflict_notification_sent",
    "service_call_reference_id"] with
  | some [id, event, operation, start, stop, createdAt, syncedAt, success, errorCode,
      conflictNotified, call] =>
    return ⟨← id.required toUuid?, ← event.required toUuid?,
      ← operation.required Operation.decode?,
      ⟨← start.required toTimestamp?, ← stop.required toTimestamp?⟩,
      ← createdAt.required toTimestamp?, ← syncedAt.optional toTimestamp?,
      ← success.optional toBool?, ← errorCode.optional toInt32?,
      ← conflictNotified.required toBool?, ← call.optional toUuid?⟩
  | _ => none

end Attempt

namespace Event

/-- An event as a value. -/
def encode (e : Event) : Value :=
  .record [("id", ofUuid e.id), ("department", .text e.department),
    ("source_item_id", .text e.sourceItem), ("is_deleted", .bool e.isDeleted),
    ("created_at", ofTimestamp e.createdAt), ("sync_logs", .list (e.attempts.map Attempt.encode))]

/-- Reads an event; its history may be missing. -/
def decode? (v : Value) : Option Event :=
  match v.slots? ["id", "department", "source_item_id", "is_deleted", "created_at",
    "sync_logs"] with
  | some [id, department, sourceItem, isDeleted, createdAt, attempts] =>
    return ⟨← id.required toUuid?, ← department.required toText?, ← sourceItem.required toText?,
      ← isDeleted.required toBool?, ← createdAt.required toTimestamp?,
      ← attempts.withDefault [] (toList? Attempt.decode?)⟩
  | _ => none

end Event

namespace ListedResource

/-- A listed resource as a value. -/
def encode (r : ListedResource) : Value :=
  .record [("mail_address", .text r.mail), ("group_affinity", ofText? r.group),
    ("external_id", ofText? r.externalId), ("display_name", ofText? r.displayName)]

/-- Reads a listed resource. -/
def decode? (v : Value) : Option ListedResource :=
  match v.slots? ["mail_address", "group_affinity", "external_id", "display_name"] with
  | some [mail, group, externalId, displayName] =>
    return ⟨← mail.required toText?, ← group.optional toText?, ← externalId.optional toText?,
      ← displayName.optional toText?⟩
  | _ => none

end ListedResource

namespace Resource

/-- A resource as a value. -/
def encode (r : Resource) : Value :=
  .record [("id", ofUuid r.id), ("department", .text r.department), ("mail_address", .text r.mail),
    ("group_affinity", ofText? r.group), ("deleted_date", ofOption ofTimestamp r.deletedAt),
    ("error_code", ofOption ofInt32 r.errorCode), ("external_id", ofText? r.externalId),
    ("display_name", ofText? r.displayName), ("created_date", ofTimestamp r.createdAt)]

/-- Reads a resource. -/
def decode? (v : Value) : Option Resource :=
  match v.slots? ["id", "department", "mail_address", "group_affinity", "deleted_date",
    "error_code", "external_id", "display_name", "created_date"] with
  | some [id, department, mail, group, deletedAt, errorCode, externalId, displayName,
      createdAt] =>
    return ⟨← id.required toUuid?, ← department.required toText?, ← mail.required toText?,
      ← group.optional toText?, ← deletedAt.optional toTimestamp?,
      ← errorCode.optional toInt32?, ← externalId.optional toText?,
      ← displayName.optional toText?, ← createdAt.required toTimestamp?⟩
  | _ => none

end Resource

namespace Call

/-- A call's record as a value. -/
def encode (c : Call) : Value :=
  .record [("id", ofUuid c.id), ("correlation_id", .text c.correlation),
    ("operation", c.operation.encode), ("started_at", ofTimestamp c.startedAt),
    ("ended_at", ofOption ofTimestamp c.endedAt), ("success", ofOption .bool c.success),
    ("response", ofText? c.response)]

/-- Reads a call's record. -/
def decode? (v : Value) : Option Call :=
  match v.slots? ["id", "correlation_id", "operation", "started_at", "ended_at", "success",
    "response"] with
  | some [id, correlation, operation, startedAt, endedAt, success, response] =>
    return ⟨← id.required toUuid?, ← correlation.required toText?,
      ← operation.required Operation.decode?, ← startedAt.required toTimestamp?,
      ← endedAt.optional toTimestamp?, ← success.optional toBool?, ← response.optional toText?⟩
  | _ => none

end Call

namespace ItemResult

/-- An item's result as a value. -/
def encode (r : ItemResult) : Value :=
  .record [("sync_log_id", ofUuid r.attempt), ("success", .bool r.success),
    ("error_code", ofOption ofInt32 r.errorCode)]

/-- Reads an item's result. -/
def decode? (v : Value) : Option ItemResult :=
  match v.slots? ["sync_log_id", "success", "error_code"] with
  | some [attempt, success, errorCode] =>
    return ⟨← attempt.required toUuid?, ← success.required toBool?,
      ← errorCode.optional toInt32?⟩
  | _ => none

end ItemResult

namespace DomainError

/-- An error as a value. -/
def encode (e : DomainError) : Value :=
  .record [("type", .text e.kind.name), ("message", .text e.details)]

/-- Reads an error. -/
def decode? (v : Value) : Option DomainError :=
  match v.slots? ["type", "message"] with
  | some [kind, details] =>
    return ⟨← kind.required (toChoice? ErrorKind.ofName?), ← details.required toText?⟩
  | _ => none

end DomainError

namespace SyncSettings

/-- The section as a value. -/
def encode (s : SyncSettings) : Value :=
  .record [("departments", .list (s.departments.map .text)),
    ("interval_seconds", .int s.intervalSeconds.toNat),
    ("max_create_batch_size", .int s.maxCreates.toNat), ("enabled", .bool s.enabled)]

/-- Reads the section. -/
def decode? (v : Value) : Option SyncSettings :=
  let standard : SyncSettings := {}
  match v.slots? ["departments", "interval_seconds", "max_create_batch_size", "enabled"] with
  | some [departments, interval, maxCreates, enabled] =>
    return ⟨← departments.withDefault standard.departments (toList? toText?),
      ← interval.withDefault standard.intervalSeconds toUInt64?,
      ← maxCreates.withDefault standard.maxCreates toUInt64?,
      ← enabled.withDefault standard.enabled toBool?⟩
  | _ => none

end SyncSettings

namespace RetrySettings

/-- The section as a value. -/
def encode (r : RetrySettings) : Value :=
  .record [("max_attempts", .int r.maxAttempts.toNat), ("base_delay_ms", .int r.baseDelayMs.toNat),
    ("multiplier", .float r.multiplier), ("max_delay_ms", .int r.maxDelayMs.toNat)]

/-- Reads the section. -/
def decode? (v : Value) : Option RetrySettings :=
  let standard : RetrySettings := {}
  match v.slots? ["max_attempts", "base_delay_ms", "multiplier", "max_delay_ms"] with
  | some [maxAttempts, baseDelay, multiplier, maxDelay] =>
    return ⟨← maxAttempts.withDefault standard.maxAttempts toUInt32?,
      ← baseDelay.withDefault standard.baseDelayMs toUInt64?,
      ← multiplier.withDefault standard.multiplier toFloat?,
      ← maxDelay.withDefault standard.maxDelayMs toUInt64?⟩
  | _ => none

end RetrySettings

namespace PlannerSettings

/-- The section as a value. -/
def encode (p : PlannerSettings) : Value :=
  .record [("endpoint", .text p.endpoint), ("timeout_seconds", .int p.timeoutSeconds.toNat)]

/-- Reads the section. -/
def decode? (v : Value) : Option PlannerSettings :=
  match v.slots? ["endpoint", "timeout_seconds"] with
  | some [endpoint, timeout] =>
    return ⟨← endpoint.required toText?, ← timeout.withDefault 30 toUInt64?⟩
  | _ => none

end PlannerSettings

namespace LogSettings

/-- The section as a value. -/
def encode (l : LogSettings) : Value :=
  .record [("level", .text l.level), ("json", .bool l.json)]

/-- Reads the section. -/
def decode? (v : Value) : Option LogSettings :=
  let standard : LogSettings := {}
  match v.slots? ["level", "json"] with
  | some [level, json] =>
    return ⟨← level.withDefault standard.level toText?, ← json.withDefault standard.json toBool?⟩
  | _ => none

end LogSettings

namespace Settings

/-- The number of fields of a section. -/
def sectionSize? (name : String) : Option Nat :=
  if name = "sync" ∨ name = "retry" then some 4
  else if name = "planner" ∨ name = "logging" then some 2
  else none

/-- Drops what stands after the last field in sections that are written as lists. -/
def cutSections : Value → Value
  | .record fields =>
    .record (fields.map fun
      | (name, .list items) =>
        (name, .list (items.take ((sectionSize? name).getD items.length)))
      | field => field)
  | v => v

/-- Settings as a value. -/
def encode (s : Settings) : Value :=
  .record [("sync", s.sync.encode), ("retry", s.retry.encode), ("planner", s.planner.encode),
    ("logging", s.logging.encode)]

/-- Reads settings. -/
def decode? (v : Value) : Option Settings :=
  match v.slots? ["sync", "retry", "planner", "logging"] with
  | some [sync, retry, planner, logging] =>
    return ⟨← sync.withDefault {} SyncSettings.decode?,
      ← retry.withDefault {} RetrySettings.decode?,
      ← planner.required PlannerSettings.decode?,
      ← logging.withDefault {} LogSettings.decode?⟩
  | _ => none

end Settings
end CalendarSync
