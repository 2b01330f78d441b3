import CalendarSync.Settings.LoadError

/-!
# Settings from the environment

Two variables are required; all others have a default. Numbers may have blanks around them.
-/

namespace CalendarSync
set_option autoImplicit false

/-- The texts of the variables that are set. -/
abbrev Environment := String → Option String

namespace Environment

/-- The endpoint of the Planner. -/
def endpointName : String := "PLANNER_ENDPOINT"

/-- The departments, divided by commas. -/
def departmentsName : String := "PLANNER_SYNC_DEPARTMENTS"

/-- Seconds between two ticks. -/
def intervalName : String := "PLANNER_SYNC_INTERVAL"

/-- Creates sent per cycle. -/
def maxCreatesName : String := "PLANNER_SYNC_MAX_CREATE_BATCH"

/-- Whether the worker may start. -/
def enabledName : String := "PLANNER_SYNC_ENABLED"

/-- Seconds that a call to the Planner may take. -/
def timeoutName : String := "PLANNER_TIMEOUT_SECONDS"

/-- Attempts of a call that meets a busy Planner. -/
def maxAttemptsName : String := "PLANNER_RETRY_MAX_ATTEMPTS"

/-- Milliseconds before the first retry. -/
def baseDelayName : String := "PLANNER_RETRY_BASE_DELAY_MS"

/-- The growth of the waits. -/
def multiplierName : String := "PLANNER_RETRY_MULTIPLIER"

/-- The longest wait in milliseconds. -/
def maxDelayName : String := "PLANNER_RETRY_MAX_DELAY_MS"

/-- The log filter. -/
def logLevelName : String := "PLANNER_LOG_LEVEL"

/-- The text of a variable that must be set. -/
def required (env : Environment) (name : String) : Except LoadError String :=
  match env name with
  | some s => .ok s
  | none => .error (.missingVariable name)

/-- The number in a variable, or the default. -/
def parsed {α : Type} (env : Environment) (name : String) (default : α)
    (read : String → Except Decimal.ReadError α) : Except LoadError α :=
  match env name with
  | none => .ok default
  | some s =>
    match read (Text.trim s) with
    | .ok value => .ok value
    | .error cause => .error (.badVariable name cause)

/-- A whole number of at most 64 bits. -/
def readUInt64 (s : String) : Except Decimal.ReadError UInt64 :=
  (Decimal.readNat (UInt64.size - 1) s).map UInt64.ofNat

/-- A whole number of at most 32 bits. -/
def readUInt32 (s : String) : Except Decimal.ReadError UInt32 :=
  (Decimal.readNat (UInt32.size - 1) s).map UInt32.ofNat

/-- A switch is on if it says so in one of four words, in any letter case. -/
def isOn (s : String) : Bool :=
  ["1", "true", "yes", "on"].contains (String.ofList (s.toList.map Char.toLower))

/-- Divides characters at commas. -/
def splitCommas : List Char → List (List Char)
  | [] => [[]]
  | c :: rest =>
    match splitCommas rest with
    | [] => [[c]]
    | part :: parts => if c = ',' then [] :: part :: parts else (c :: part) :: parts

/-- The names between commas, without the blanks around them; empty ones do not count. -/
def departments (s : String) : List String :=
  ((splitCommas s.toList).map fun part => String.ofList (Text.trimChars part)).filter (· ≠ "")

end Environment

/-- Loads settings from the environment. The first variable in this order that does not do decides
the error. -/
def Settings.ofEnvironment (env : Environment) : Except LoadError Settings := do
  let endpoint ← env.required Environment.endpointName
  let departments := Environment.departments (← env.required Environment.departmentsName)
  let sync : SyncSettings := {}
  let retry : RetrySettings := {}
  let intervalSeconds ← env.parsed Environment.intervalName sync.intervalSeconds
    Environment.readUInt64
  let maxCreates ← env.parsed Environment.maxCreatesName sync.maxCreates Environment.readUInt64
  let maxAttempts ← env.parsed Environment.maxAttemptsName retry.maxAttempts
    Environment.readUInt32
  let baseDelayMs ← env.parsed Environment.baseDelayName retry.baseDelayMs Environment.readUInt64
  let multiplier ← env.parsed Environment.multiplierName retry.multiplier Decimal.readFloat
  let maxDelayMs ← env.parsed Environment.maxDelayName retry.maxDelayMs Environment.readUInt64
  let timeoutSeconds ← env.parsed Environment.timeoutName 30 Environment.readUInt64
  let enabled := ((env Environment.enabledName).map Environment.isOn).getD sync.enabled
  let logging : LogSettings := {}
  let level := (env Environment.logLevelName).getD logging.level
  Settings.checked
    { sync := { departments, intervalSeconds, maxCreates, enabled }
      retry := { maxAttempts, baseDelayMs, multiplier, maxDelayMs }
      planner := { endpoint, timeoutSeconds }
      logging := { logging with level } }

end CalendarSync
