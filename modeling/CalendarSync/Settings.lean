import CalendarSync.Backoff
import CalendarSync.DomainError
import CalendarSync.Text.Blank

/-!
# Settings

The configuration of the library: its sections, their defaults and what can be wrong with them.
-/

namespace CalendarSync
set_option autoImplicit false

/-- How cycles run. -/
structure SyncSettings where
  /-- The departments to process, each in a cycle of its own. -/
  departments : List String := []
  intervalSeconds : UInt64 := 60
  maxCreates : UInt64 := 50
  enabled : Bool := true
deriving DecidableEq

/-- How a busy Planner is asked again. -/
structure RetrySettings where
  maxAttempts : UInt32 := 4
  baseDelayMs : UInt64 := 200
  multiplier : Float := 2.0
  maxDelayMs : UInt64 := 2000

/-- Where the Planner is. -/
structure PlannerSettings where
  endpoint : String
  timeoutSeconds : UInt64 := 30
deriving DecidableEq

/-- What is logged, and how. -/
structure LogSettings where
  level : String := "info"
  json : Bool := false
deriving DecidableEq

/-- The whole configuration; only the Planner's section has no default. -/
structure Settings where
  sync : SyncSettings := {}
  retry : RetrySettings := {}
  planner : PlannerSettings
  logging : LogSettings := {}

/-- What can be wrong with settings. -/
inductive SettingsFlaw where
  | emptyEndpoint
  | zeroTimeout
  | zeroCreates
  | zeroInterval
  | noAttempts
  | badMultiplier (multiplier : Float)
  | baseAboveMax (base max : UInt64)

/-- The wording of a flaw. -/
def SettingsFlaw.message : SettingsFlaw → String
  | emptyEndpoint => "planner.endpoint must not be empty"
  | zeroTimeout => "planner.timeout_seconds must be > 0"
  | zeroCreates => "sync.max_create_batch_size must be > 0"
  | zeroInterval => "sync.interval_seconds must be > 0"
  | noAttempts => "retry.max_attempts must be > 0"
  | badMultiplier m =>
    "retry.multiplier must be a finite value >= 1.0, got " ++ Decimal.plainText m
  | baseAboveMax base max =>
    s!"retry.base_delay_ms ({base.toNat}) cannot exceed retry.max_delay_ms ({max.toNat})"

/-- A flaw as an error. -/
def SettingsFlaw.toDomain (f : SettingsFlaw) : DomainError :=
  .config f.message

/-- The first flaw of retry settings, if any. -/
def RetrySettings.flaw? (r : RetrySettings) : Option SettingsFlaw :=
  if r.maxAttempts = 0 then some .noAttempts
  else if !r.multiplier.isFinite || r.multiplier < 1.0 then some (.badMultiplier r.multiplier)
  else if r.maxDelayMs < r.baseDelayMs then some (.baseAboveMax r.baseDelayMs r.maxDelayMs)
  else none

/-- The first flaw of settings, if any. -/
def Settings.flaw? (s : Settings) : Option SettingsFlaw :=
  if Text.isBlankText s.planner.endpoint then some .emptyEndpoint
  else if s.planner.timeoutSeconds = 0 then some .zeroTimeout
  else if s.sync.maxCreates = 0 then some .zeroCreates
  else if s.sync.intervalSeconds = 0 then some .zeroInterval
  else s.retry.flaw?

/-- Accepts settings without a flaw. -/
def Settings.validate (s : Settings) : Except DomainError Unit :=
  match s.flaw? with
  | some f => .error f.toDomain
  | none => .ok ()

/-- The backoff policy that retry settings describe. -/
def RetrySettings.toBackoff (r : RetrySettings) : Backoff where
  maxAttempts := r.maxAttempts
  base := .ofMillis r.baseDelayMs
  multiplier := r.multiplier
  cap := .ofMillis r.maxDelayMs

/-- The backoff policy of retry settings, if both are without a flaw. -/
def RetrySettings.backoff (r : RetrySettings) : Except DomainError Backoff :=
  match r.flaw? with
  | some f => .error f.toDomain
  | none =>
    match r.toBackoff.flaw? with
    | some f => .error (.config f.message)
    | none => .ok r.toBackoff

end CalendarSync
