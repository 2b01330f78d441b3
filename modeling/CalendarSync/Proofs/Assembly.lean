import CalendarSync.Assembly
import CalendarSync.Proofs.Interleaving
import CalendarSync.Settings.Load

/-!
# Settings that assemble

Retry settings are looked through twice, as they are written and as the policy they describe, and
settings are looked through again when services are built from them. All of this comes to the same
verdict: what has been loaded can be built, and no call of it is refused for its policy.
-/

namespace CalendarSync
set_option autoImplicit false
open Program

theorem Except.of_bind_ok {ε α β : Type} {x : Except ε α} {f : α → Except ε β} {result : β}
    (ok : (x >>= f) = .ok result) : ∃ value, x = .ok value ∧ f value = .ok result := by
  cases x with
  | error e => cases ok
  | ok value => exact ⟨value, rfl, ok⟩

/-! ## The two checks of retry settings -/

theorem Duration.ofMillis_lt_ofMillis {a b : UInt64} : ofMillis a < ofMillis b ↔ a < b := by
  rw [UInt64.lt_iff_toNat_lt]
  change a.toNat * 1000000 < b.toNat * 1000000 ↔ _
  omega

namespace RetrySettings
variable {r : RetrySettings}

/-- The policy has a flaw only where the settings have one: a wait of so many milliseconds always is
a duration, and longer waits are longer durations. -/
theorem flaw?_toBackoff : r.toBackoff.flaw? = none ↔ r.flaw? = none := by
  have converted : r.toBackoff.flaw? =
      if r.maxAttempts = 0 then some .noAttempts
      else if !r.multiplier.isFinite || r.multiplier < 1.0 then
        some (.badMultiplier r.multiplier)
      else if Duration.ofMillis r.maxDelayMs < .ofMillis r.baseDelayMs then
        some (.baseAboveCap (.ofMillis r.baseDelayMs) (.ofMillis r.maxDelayMs))
      else none := rfl
  simp only [converted, flaw?, Duration.ofMillis_lt_ofMillis]
  split_ifs <;> simp

theorem backoff_eq_ok_iff {b : Backoff} : r.backoff = .ok b ↔ r.flaw? = none ∧ b = r.toBackoff := by
  unfold backoff
  cases found : r.flaw? with
  | some flaw => simp
  | none => simp [flaw?_toBackoff.2 found, eq_comm]

theorem maxAttempts_ne_zero (sound : r.flaw? = none) : r.maxAttempts ≠ 0 := by
  intro none
  simp [flaw?, none] at sound

end RetrySettings

/-! ## Services -/

theorem Settings.validate_eq_ok_iff {s : Settings} : s.validate = .ok () ↔ s.flaw? = none := by
  unfold validate
  cases s.flaw? <;> simp

/-- The retry settings are looked through last. -/
theorem Settings.retry_flaw? {s : Settings} (sound : s.flaw? = none) : s.retry.flaw? = none := by
  unfold flaw? at sound
  split_ifs at sound
  exact sound

/-- What services are built from valid settings. -/
theorem Services.ofSettings_eq_ok_iff {s : Settings} {token : Token} {services : Services} :
    ofSettings s token = .ok services ↔ s.flaw? = none ∧
      services = { sending := ⟨s.retry.toBackoff, .ofSeconds s.planner.timeoutSeconds, token.child 0⟩
                   maxCreates := s.sync.maxCreates.toNat
                   listing :=
                    ⟨s.retry.toBackoff, .ofSeconds s.planner.timeoutSeconds, token.child 1⟩ } := by
  constructor
  · intro built
    obtain ⟨b, policy, built⟩ := Except.of_bind_ok built
    obtain ⟨_, valid, built⟩ := Except.of_bind_ok built
    obtain ⟨-, rfl⟩ := RetrySettings.backoff_eq_ok_iff.1 policy
    exact ⟨Settings.validate_eq_ok_iff.1 valid, (Except.ok.inj built).symm⟩
  · rintro ⟨sound, rfl⟩
    have policy := RetrySettings.backoff_eq_ok_iff.2 ⟨Settings.retry_flaw? sound, rfl⟩
    rw [ofSettings, policy, Settings.validate_eq_ok_iff.2 sound]
    rfl

/-- A shutdown by the token reaches the calls of both services. -/
theorem Services.stemsFrom_of_ofSettings {s : Settings} {token : Token} {services : Services}
    (built : ofSettings s token = .ok services) :
    services.sending.token.stemsFrom token = true ∧
      services.listing.token.stemsFrom token = true := by
  obtain ⟨-, rfl⟩ := ofSettings_eq_ok_iff.1 built
  exact ⟨Token.stemsFrom_child (Token.stemsFrom_self token),
    Token.stemsFrom_child (Token.stemsFrom_self token)⟩

/-! ## Calls -/

namespace Retry
variable {ε α : Type} {token : Token} {b : Backoff} {isBusy : ε → Bool} {action : Program (Except ε α)}
  {t : List Moment} {result : Except (RetryFailure ε) α} {details : String}

/-- A try that comes after a look for a shutdown is aborted, or it is answered, or what follows its
failure decides. -/
theorem of_path_try {P : Except (RetryFailure ε) α → Prop} {made : Nat}
    {retry : ε → Program (Except (RetryFailure ε) α)}
    (path : Path (do
      if ← (Host.ofBackoff token b).isCancelled then
        return .error (.aborted made)
      match ← action with
      | .ok value => return .ok value
      | .error e => retry e) t result)
    (aborted : P (.error (.aborted made))) (answered : ∀ value, P (.ok value))
    (failed : ∀ e t, Path (retry e) t result → P result) : P result := by
  obtain ⟨cancelled, _, _, -, -, path⟩ := path_bind_iff.1 path
  cases cancelled with
  | true =>
    obtain ⟨-, rfl⟩ := path_pure_iff.1 path
    exact aborted
  | false =>
    obtain ⟨answer, _, _, -, -, path⟩ := path_bind_iff.1 path
    cases answer with
    | ok value =>
      obtain ⟨-, rfl⟩ := path_pure_iff.1 path
      exact answered value
    | error e => exact failed e _ path

/-- Attempts are never refused, whatever the action does and whenever they are cut short. -/
theorem path_attempt_ne_invalid (before more : Nat)
    (path : Path (attempt (.ofBackoff token b) isBusy action before more) t result) :
    result ≠ .error (.invalid details) := by
  induction more generalizing before t with
  | zero =>
    rw [attempt] at path
    refine of_path_try (P := (· ≠ .error (.invalid details))) path (by simp) (by simp)
      fun e t path => ?_
    obtain ⟨-, rfl⟩ := path_pure_iff.1 path
    cases busy : isBusy e <;> simp
  | succ more ih =>
    rw [attempt] at path
    refine of_path_try (P := (· ≠ .error (.invalid details))) path (by simp) (by simp)
      fun e t path => ?_
    cases busy : isBusy e with
    | false =>
      simp only [busy] at path
      obtain ⟨-, rfl⟩ := path_pure_iff.1 path
      simp
    | true =>
      simp only [busy, if_true] at path
      obtain ⟨cut, _, _, -, -, path⟩ := path_bind_iff.1 path
      cases cut with
      | true =>
        obtain ⟨-, rfl⟩ := path_pure_iff.1 path
        simp
      | false => exact ih (before + 1) path

/-- Only a call without attempts is refused. -/
theorem path_run_ne_invalid {label : String} {maxAttempts : Nat} (some : maxAttempts ≠ 0)
    (path : Path (run (.ofBackoff token b) isBusy label maxAttempts action) t result) :
    result ≠ .error (.invalid details) := by
  cases maxAttempts with
  | zero => exact absurd rfl some
  | succ more => exact path_attempt_ne_invalid 0 more path

end Retry

/-! ## Loading -/

namespace Settings
variable {env : Environment} {tree : FileTree} {path : Option String} {s : Settings}

theorem checked_eq_ok_iff {s' : Settings} : s.checked = .ok s' ↔ s.flaw? = none ∧ s' = s := by
  unfold checked
  cases s.flaw? <;> simp [eq_comm]

theorem checked_eq_error_iff {e : LoadError} : s.checked = .error e ↔
    ∃ flaw, s.flaw? = some flaw ∧ e = .flawed flaw := by
  unfold checked
  cases s.flaw? <;> simp [eq_comm]

/-- What has been read from the environment is looked through at the end. -/
theorem ofEnvironment_flaw? (loaded : ofEnvironment env = .ok s) : s.flaw? = none := by
  unfold ofEnvironment at loaded
  obtain ⟨endpoint, -, loaded⟩ := Except.of_bind_ok loaded
  obtain ⟨departments, -, loaded⟩ := Except.of_bind_ok loaded
  obtain ⟨interval, -, loaded⟩ := Except.of_bind_ok loaded
  obtain ⟨maxCreates, -, loaded⟩ := Except.of_bind_ok loaded
  obtain ⟨maxAttempts, -, loaded⟩ := Except.of_bind_ok loaded
  obtain ⟨baseDelay, -, loaded⟩ := Except.of_bind_ok loaded
  obtain ⟨multiplier, -, loaded⟩ := Except.of_bind_ok loaded
  obtain ⟨maxDelay, -, loaded⟩ := Except.of_bind_ok loaded
  obtain ⟨timeout, -, loaded⟩ := Except.of_bind_ok loaded
  obtain ⟨sound, rfl⟩ := checked_eq_ok_iff.1 loaded
  exact sound

/-- So is what has been read from a file. -/
theorem ofFile_flaw? (loaded : ofFile tree path = .ok s) : s.flaw? = none := by
  unfold ofFile at loaded
  extract_lets read at loaded
  have flaw? (place : String) (loaded : read place = .ok s) : s.flaw? = none := by
    simp only [read] at loaded
    split at loaded
    · obtain ⟨parsed, -, loaded⟩ := Except.of_bind_ok loaded
      obtain ⟨sound, rfl⟩ := checked_eq_ok_iff.1 loaded
      exact sound
    · cases loaded
  repeat' split at loaded
  all_goals
    obtain ⟨place, -, loaded⟩ := Except.of_bind_ok loaded
    exact flaw? place loaded

theorem load_flaw? (loaded : load env tree = .ok s) : s.flaw? = none := by
  unfold load at loaded
  split at loaded
  · obtain rfl := Except.ok.inj loaded
    exact ofEnvironment_flaw? ‹_›
  · exact ofFile_flaw? loaded

end Settings

/-! ## All checks together -/

/-- Services are built from exactly the settings that are valid: they make their calls as the retry
settings say, within the time limit, and under children of the token, and the cycles keep to the cap
on creates. A policy is built from exactly the retry settings without a flaw, and a call with the
attempts of such a policy is never refused. Whatever has been loaded is valid, so that services can
be built from it. -/
theorem Settings.checks_agree :
    (∀ (s : Settings) (token : Token),
      ((∃ services, Services.ofSettings s token = .ok services) ↔ s.validate = .ok ()) ∧
      ∀ services, Services.ofSettings s token = .ok services →
        s.retry.backoff = .ok services.sending.backoff ∧
        s.retry.backoff = .ok services.listing.backoff ∧
        services.sending.limit = .ofSeconds s.planner.timeoutSeconds ∧
        services.listing.limit = .ofSeconds s.planner.timeoutSeconds ∧
        services.sending.token = token.child 0 ∧ services.listing.token = token.child 1 ∧
        services.maxCreates = s.sync.maxCreates.toNat) ∧
    (∀ r : RetrySettings, ((∃ policy, r.backoff = .ok policy) ↔ r.flaw? = none) ∧
      (r.toBackoff.flaw? = none ↔ r.flaw? = none) ∧
      ∀ policy, r.backoff = .ok policy → policy = r.toBackoff) ∧
    (∀ (r : RetrySettings) (policy : Backoff), r.backoff = .ok policy →
      ∀ {ε α : Type} (token : Token) (isBusy : ε → Bool) (label : String)
        (action : Program (Except ε α)) (t : List Moment) (result : Except (RetryFailure ε) α),
        Path (Retry.run (.ofBackoff token policy) isBusy label policy.maxAttempts.toNat action) t
            result →
          ∀ details, result ≠ .error (.invalid details)) ∧
    ∀ (env : Environment) (tree : FileTree) (path : Option String) (s : Settings),
      load env tree = .ok s ∨ ofEnvironment env = .ok s ∨ ofFile tree path = .ok s →
        s.validate = .ok () ∧ ∀ token, ∃ services, Services.ofSettings s token = .ok services := by
  have built {s : Settings} (sound : s.flaw? = none) (token : Token) :
      ∃ services, Services.ofSettings s token = .ok services :=
    ⟨_, Services.ofSettings_eq_ok_iff.2 ⟨sound, rfl⟩⟩
  refine ⟨fun s token => ⟨?_, fun services made => ?_⟩, fun r =>
    ⟨?_, RetrySettings.flaw?_toBackoff, fun policy made => ?_⟩, ?_, ?_⟩
  · rw [validate_eq_ok_iff]
    exact ⟨fun ⟨services, made⟩ => (Services.ofSettings_eq_ok_iff.1 made).1, (built · token)⟩
  · obtain ⟨sound, rfl⟩ := Services.ofSettings_eq_ok_iff.1 made
    have policy := RetrySettings.backoff_eq_ok_iff.2 ⟨retry_flaw? sound, rfl⟩
    exact ⟨policy, policy, rfl, rfl, rfl, rfl, rfl⟩
  · simp [RetrySettings.backoff_eq_ok_iff]
  · exact (RetrySettings.backoff_eq_ok_iff.1 made).2
  · intro r policy made ε α token isBusy label action t result path details
    obtain ⟨sound, rfl⟩ := RetrySettings.backoff_eq_ok_iff.1 made
    have attempts : r.maxAttempts.toNat ≠ 0 :=
      fun none => RetrySettings.maxAttempts_ne_zero sound (UInt32.toNat_inj.1 none)
    exact Retry.path_run_ne_invalid attempts path
  · intro env tree path s loaded
    have sound : s.flaw? = none := by
      rcases loaded with loaded | loaded | loaded
      · exact load_flaw? loaded
      · exact ofEnvironment_flaw? loaded
      · exact ofFile_flaw? loaded
    exact ⟨validate_eq_ok_iff.2 sound, built sound⟩

/-- The two variables that are required. -/
def Environment.sample : Environment := fun name =>
  if name = endpointName then some "https://planner"
  else if name = departmentsName then some "rooms, halls" else none

/-- Two attempts with the longest wait there is. -/
def RetrySettings.longest : RetrySettings :=
  { maxAttempts := 2, baseDelayMs := 18446744073709551615, maxDelayMs := 18446744073709551615 }

/-- A file found by its path from the root. -/
def FileTree.sample : FileTree where
  files := [(⟨["etc", "sync.toml"]⟩, .text "[planner]\nendpoint = \"https://planner\"")]
  workingDirectory := some ⟨["home"]⟩
  executable := none

/-- The environment and the file load, and the longest waits make a policy, under which two attempts
that find the Planner busy are made. -/
theorem Settings.checks_agree_sample :
    (∃ s, ofEnvironment .sample = .ok s ∧ s.validate = .ok () ∧
      ∃ services, Services.ofSettings s (.root 0) = .ok services) ∧
    (∃ s, ofFile .sample (some "/etc/sync.toml") = .ok s ∧ s.validate = .ok () ∧
      ∃ services, Services.ofSettings s (.root 0) = .ok services ∧
        services.sending.limit = .ofSeconds s.planner.timeoutSeconds ∧
        services.sending.token = .child (.root 0) 0) ∧
    ∃ policy t, RetrySettings.longest.backoff = .ok policy ∧
      Path (Retry.run (.ofBackoff (.root 0) policy) (fun _ => true) "create_events"
        policy.maxAttempts.toNat (pure (.error ()) : Program (Except Unit Unit))) t
          (.error (.exhausted 2 ())) ∧
      ∀ details, (.error (.exhausted 2 ()) : Except (RetryFailure Unit) Unit) ≠
        .error (.invalid details) := by
  obtain ⟨builds, -, called, loads⟩ := Settings.checks_agree
  refine ⟨?_, ?_, ?_⟩
  · have loaded : (ofEnvironment .sample).toOption.isSome = true := by decide +kernel
    cases settings : ofEnvironment .sample with
    | error e => simp [settings, Except.toOption] at loaded
    | ok s =>
      obtain ⟨valid, built⟩ := loads .sample .sample none s (.inr (.inl settings))
      exact ⟨s, rfl, valid, built (.root 0)⟩
  · have loaded : (ofFile .sample (some "/etc/sync.toml")).toOption.isSome = true := by
      decide +kernel
    cases settings : ofFile .sample (some "/etc/sync.toml") with
    | error e => simp [settings, Except.toOption] at loaded
    | ok s =>
      obtain ⟨valid, built⟩ := loads .sample .sample _ s (.inr (.inr settings))
      obtain ⟨services, made⟩ := built (.root 0)
      obtain ⟨-, -, limit, -, token, -⟩ := (builds s (.root 0)).2 services made
      exact ⟨s, rfl, valid, services, made, limit, token⟩
  · let tables : Simulation.Store := ⟨[], [], [], []⟩
    have sound : RetrySettings.longest.flaw?.isNone = true := by decide +kernel
    have built : RetrySettings.longest.backoff = .ok RetrySettings.longest.toBackoff :=
      RetrySettings.backoff_eq_ok_iff.2 ⟨Option.isNone_iff_eq_none.1 sound, rfl⟩
    have path : Path (Retry.run (.ofBackoff (.root 0) RetrySettings.longest.toBackoff)
        (fun _ => true) "create_events" RetrySettings.longest.toBackoff.maxAttempts.toNat
        (pure (.error ()) : Program (Except Unit Unit)))
        [⟨tables, .isCancelled (.root 0), false⟩,
          ⟨tables, .pause (.root 0) RetrySettings.longest.toBackoff 0, false⟩,
          ⟨tables, .isCancelled (.root 0), false⟩] (.error (.exhausted 2 ())) :=
      .ask _ (.ask _ (.ask _ (.done _)))
    exact ⟨_, _, built, path, called _ _ built _ _ _ _ _ _ path⟩

end CalendarSync
