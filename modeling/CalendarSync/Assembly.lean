import CalendarSync.Settings
import CalendarSync.Worker

/-!
# Assembly

The services and the worker that settings describe.
-/

namespace CalendarSync
set_option autoImplicit false

/-- The services of valid settings. Each of them makes its calls under a child of the token that a
shutdown is requested by. -/
def Services.ofSettings (s : Settings) (token : Token) : Except DomainError Services := do
  let backoff ← s.retry.backoff
  s.validate
  let limit := Duration.ofSeconds s.planner.timeoutSeconds
  return { sending := ⟨backoff, limit, token.child 0⟩
           maxCreates := s.sync.maxCreates.toNat
           listing := ⟨backoff, limit, token.child 1⟩ }

/-- How a worker runs. -/
structure WorkerSettings where
  departments : List String
  /-- The wait between two ticks. -/
  poll : Duration
  /-- How long a tick may take. -/
  processingTimeout : Duration
  /-- How long to wait for the worker when it is stopped. -/
  joinTimeout : Duration
  /-- Reconcile each department before its cycle. -/
  reconcileResources : Bool
  enabled : Bool
deriving DecidableEq

/-- The worker that sync settings describe; it waits at least a second between ticks, and gives a
tick five times as long. -/
def WorkerSettings.ofSync (s : SyncSettings) : WorkerSettings :=
  let poll := Duration.ofSeconds (max s.intervalSeconds 1)
  { departments := s.departments
    poll := poll
    processingTimeout := poll.scale 5
    joinTimeout := .ofSeconds 5
    reconcileResources := true
    enabled := s.enabled }

/-- Why a worker cannot be started or stopped. -/
inductive WorkerError where
  | alreadyRunning
  | notRunning
  /-- A worker that has been stopped cannot be started again. -/
  | shutDown
  | disabled
  | taskPanicked
  | joinTimeout (limit : Duration)
deriving DecidableEq

/-- The wording of a worker's error; what a crashed task reported is not known here. -/
def WorkerError.message? : WorkerError → Option String
  | alreadyRunning => some "Worker already running"
  | notRunning => some "Worker not running"
  | shutDown => some "Worker has been shut down"
  | disabled => some "Sync is disabled in configuration"
  | taskPanicked => none
  | joinTimeout limit => some ("Worker task did not finish within " ++ limit.text)

end CalendarSync
