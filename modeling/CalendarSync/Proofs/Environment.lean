import CalendarSync.Proofs.Assembly
import CalendarSync.Proofs.Spelling

/-!
# Settings spelled in an environment

What can be wrong with an environment is the list of the faults of its variables. Loading reports the
first of them, and without any it looks through the settings that the variables spell. So settings
that are valid are loaded from every environment that spells them, and a number beyond its limit is
reported and never cut.
-/

namespace CalendarSync
set_option autoImplicit false

namespace Environment

/-! ## Faults -/

/-- A variable that can be at fault, and what is wrong with it when it is unset or holds a text. -/
structure Variable where
  name : String
  fault? : Option String → Option LoadError

namespace Variable

/-- A variable that has to be set. -/
def needed (name : String) : Variable where
  name
  fault?
    | some _ => none
    | none => some (.missingVariable name)

/-- A variable that is read if it is set. -/
def optional {α : Type} (name : String) (read : String → Except Decimal.ReadError α) :
    Variable where
  name
  fault?
    | none => none
    | some s =>
      match read (Text.trim s) with
      | .ok _ => none
      | .error cause => some (.badVariable name cause)

@[simp] theorem optional_name {α : Type} (name : String)
    (read : String → Except Decimal.ReadError α) : (optional name read).name = name :=
  rfl

end Variable

/-- The variables that can be at fault, in the order in which they are looked at. -/
def inspected : List Variable :=
  [.needed endpointName, .needed departmentsName, .optional intervalName readUInt64,
    .optional maxCreatesName readUInt64, .optional maxAttemptsName readUInt32,
    .optional baseDelayName readUInt64, .optional multiplierName Decimal.readFloat,
    .optional maxDelayName readUInt64, .optional timeoutName readUInt64]

/-- All that is wrong with an environment. -/
def faults (env : Environment) : List LoadError :=
  inspected.filterMap fun v => v.fault? (env v.name)

/-- The number in a variable; the default where none can be read. -/
def value {α : Type} (env : Environment) (name : String) (default : α)
    (read : String → Except Decimal.ReadError α) : α :=
  (env.parsed name default read).toOption.getD default

/-- The settings that an environment spells. -/
def settings (env : Environment) : Settings :=
  let sync : SyncSettings := {}
  let retry : RetrySettings := {}
  let logging : LogSettings := {}
  { sync :=
      { departments := departments ((env departmentsName).getD "")
        intervalSeconds := env.value intervalName sync.intervalSeconds readUInt64
        maxCreates := env.value maxCreatesName sync.maxCreates readUInt64
        enabled := ((env enabledName).map isOn).getD sync.enabled }
    retry :=
      { maxAttempts := env.value maxAttemptsName retry.maxAttempts readUInt32
        baseDelayMs := env.value baseDelayName retry.baseDelayMs readUInt64
        multiplier := env.value multiplierName retry.multiplier Decimal.readFloat
        maxDelayMs := env.value maxDelayName retry.maxDelayMs readUInt64 }
    planner :=
      { endpoint := (env endpointName).getD ""
        timeoutSeconds := env.value timeoutName 30 readUInt64 }
    logging := { logging with level := (env logLevelName).getD logging.level } }

variable {env : Environment} {name : String} {α : Type}
  {read : String → Except Decimal.ReadError α} {default : α}

theorem required_eq : env.required name =
    match (Variable.needed name).fault? (env name) with
    | none => .ok ((env name).getD "")
    | some e => .error e := by
  unfold required
  cases env name <;> rfl

theorem parsed_eq : env.parsed name default read =
    match (Variable.optional name read).fault? (env name) with
    | none => .ok (env.value name default read)
    | some e => .error e := by
  unfold value parsed
  cases set : env name with
  | none => rfl
  | some s => cases found : read (Text.trim s) <;> simp [Variable.optional, found, Except.toOption]

/-- The first fault of some variables; without one, the result. -/
def report {β : Type} (env : Environment) (vs : List Variable) (result : Except LoadError β) :
    Except LoadError β :=
  match vs.filterMap fun v => v.fault? (env v.name) with
  | [] => result
  | e :: _ => .error e

/-- Reading one variable after the other stops at the first fault. -/
theorem bind_eq_report {β γ : Type} {v : Variable} {vs : List Variable} {x : Except LoadError β}
    {y : β} {f : β → Except LoadError γ} {result : Except LoadError γ}
    (reading : x = match v.fault? (env v.name) with
      | none => .ok y
      | some e => .error e)
    (rest : f y = env.report vs result) : (x >>= f) = env.report (v :: vs) result := by
  rw [reading, report, List.filterMap_cons]
  cases v.fault? (env v.name) with
  | none => exact rest
  | some e => rfl

/-- Loading reports the first fault, and looks through the settings if there is none. -/
theorem ofEnvironment_eq (env : Environment) :
    Settings.ofEnvironment env = env.report inspected env.settings.checked := by
  unfold Settings.ofEnvironment
  -- One step for each variable that is inspected; the switch and the log filter cannot fail.
  refine bind_eq_report required_eq ?_
  refine bind_eq_report required_eq ?_
  refine bind_eq_report parsed_eq ?_
  refine bind_eq_report parsed_eq ?_
  refine bind_eq_report parsed_eq ?_
  refine bind_eq_report parsed_eq ?_
  refine bind_eq_report parsed_eq ?_
  refine bind_eq_report parsed_eq ?_
  refine bind_eq_report parsed_eq ?_
  rfl

section Report
variable {β : Type} {vs : List Variable} {v : Variable} {result : Except LoadError β} {e : LoadError}

theorem report_of_sound (sound : ∀ v ∈ vs, v.fault? (env v.name) = none) :
    env.report vs result = result := by
  have nothing : (vs.filterMap fun v => v.fault? (env v.name)) = [] :=
    List.filterMap_eq_nil_iff.2 sound
  rw [report, nothing]

/-- Whatever else is wrong, a fault is enough for an error. -/
theorem report_of_fault (mem : v ∈ vs) (fault : v.fault? (env v.name) = some e) :
    ∃ first ∈ vs.filterMap fun v => v.fault? (env v.name), env.report vs result = .error first := by
  have found : e ∈ vs.filterMap fun v => v.fault? (env v.name) :=
    List.mem_filterMap.2 ⟨v, mem, fault⟩
  rw [report]
  cases all : vs.filterMap fun v => v.fault? (env v.name) with
  | nil => simp [all] at found
  | cons first rest => exact ⟨first, List.mem_cons_self, rfl⟩

/-- The only fault is the one that is reported. -/
theorem report_of_only_fault (mem : v ∈ vs) (fault : v.fault? (env v.name) = some e)
    (only : ∀ other ∈ vs, other.name ≠ v.name → other.fault? (env other.name) = none)
    (distinct : (vs.map Variable.name).Nodup) : env.report vs result = .error e := by
  obtain ⟨first, found, reported⟩ : ∃ first ∈ vs.filterMap fun v => v.fault? (env v.name),
      env.report vs result = .error first := report_of_fault mem fault
  obtain ⟨other, mem', fault'⟩ := List.mem_filterMap.1 found
  have same : other.name = v.name := by
    by_contra differs
    simp [only other mem' differs] at fault'
  obtain rfl := List.inj_on_of_nodup_map distinct mem' mem same
  rw [reported, Option.some.inj (fault'.symm.trans fault)]

end Report

/-! ## Numbers -/

/-- The variable holds a numeral of the number, perhaps with blanks around it. -/
def Holds (env : Environment) (name : String) (n : Nat) : Prop :=
  ∃ numeral text, Decimal.Spells numeral n ∧ Text.Padded numeral text ∧ env name = some text

section Numbers
variable {n limit : Nat} {f : Nat → α}

theorem Holds.fault? (holds : env.Holds name n) :
    (Variable.optional name fun s => (Decimal.readNat limit s).map f).fault? (env name) =
      if n ≤ limit then none else some (.badVariable name .tooLarge) := by
  obtain ⟨numeral, text, spells, padded, set⟩ := holds
  simp only [Variable.optional, set, Text.trim_of_padded spells.isTrimmed padded,
    Decimal.readNat_of_spells spells]
  split_ifs <;> rfl

/-- A number in the variable is at fault exactly beyond the limit. -/
def Variable.Counts (v : Variable) (limit : Nat) : Prop :=
  ∀ (env : Environment) (n : Nat), env.Holds v.name n →
    v.fault? (env v.name) = if n ≤ limit then none else some (.badVariable v.name .tooLarge)

theorem counts_uint64 (name : String) :
    (Variable.optional name readUInt64).Counts (UInt64.size - 1) := by
  intro env n holds
  rw [Variable.optional_name] at holds ⊢
  unfold readUInt64
  rw [holds.fault?]

theorem counts_uint32 (name : String) :
    (Variable.optional name readUInt32).Counts (UInt32.size - 1) := by
  intro env n holds
  rw [Variable.optional_name] at holds ⊢
  unfold readUInt32
  rw [holds.fault?]

/-- Up to its limit a number is read as it is. -/
theorem Holds.value (holds : env.Holds name n) (within : n ≤ limit) :
    env.value name default (fun s => (Decimal.readNat limit s).map f) = f n := by
  obtain ⟨numeral, text, spells, padded, set⟩ := holds
  simp only [Environment.value, parsed, set, Text.trim_of_padded spells.isTrimmed padded,
    Decimal.readNat_of_spells spells, if_pos within]
  rfl

theorem Holds.fault?_uint64 {m : UInt64} (holds : env.Holds name m.toNat) :
    (Variable.optional name readUInt64).fault? (env name) = none :=
  (counts_uint64 name env _ holds).trans (if_pos (Nat.le_sub_one_of_lt m.toNat_lt_size))

theorem Holds.fault?_uint32 {m : UInt32} (holds : env.Holds name m.toNat) :
    (Variable.optional name readUInt32).fault? (env name) = none :=
  (counts_uint32 name env _ holds).trans (if_pos (Nat.le_sub_one_of_lt m.toNat_lt_size))

theorem Holds.value_uint64 {m default : UInt64} (holds : env.Holds name m.toNat) :
    env.value name default readUInt64 = m := by
  have within : m.toNat ≤ UInt64.size - 1 := Nat.le_sub_one_of_lt m.toNat_lt_size
  exact (holds.value within).trans m.ofNat_toNat

theorem Holds.value_uint32 {m default : UInt32} (holds : env.Holds name m.toNat) :
    env.value name default readUInt32 = m := by
  have within : m.toNat ≤ UInt32.size - 1 := Nat.le_sub_one_of_lt m.toNat_lt_size
  exact (holds.value within).trans m.ofNat_toNat

end Numbers

/-- The variables for whole numbers, each with the largest number that its setting can be. -/
def numberLimits : List (String × Nat) :=
  [(intervalName, UInt64.size - 1), (maxCreatesName, UInt64.size - 1),
    (maxAttemptsName, UInt32.size - 1), (baseDelayName, UInt64.size - 1),
    (maxDelayName, UInt64.size - 1), (timeoutName, UInt64.size - 1)]

/-- Each of them is looked at with its limit. -/
theorem exists_inspected {limit : Nat} (listed : (name, limit) ∈ numberLimits) :
    ∃ v ∈ inspected, v.name = name ∧ v.Counts limit := by
  simp only [numberLimits, List.mem_cons, Prod.mk.injEq, List.not_mem_nil, or_false] at listed
  rcases listed with ⟨rfl, rfl⟩ | ⟨rfl, rfl⟩ | ⟨rfl, rfl⟩ | ⟨rfl, rfl⟩ | ⟨rfl, rfl⟩ | ⟨rfl, rfl⟩
  · exact ⟨_, by simp [inspected], rfl, counts_uint64 intervalName⟩
  · exact ⟨_, by simp [inspected], rfl, counts_uint64 maxCreatesName⟩
  · exact ⟨_, by simp [inspected], rfl, counts_uint32 maxAttemptsName⟩
  · exact ⟨_, by simp [inspected], rfl, counts_uint64 baseDelayName⟩
  · exact ⟨_, by simp [inspected], rfl, counts_uint64 maxDelayName⟩
  · exact ⟨_, by simp [inspected], rfl, counts_uint64 timeoutName⟩

theorem inspected_distinct : (inspected.map Variable.name).Nodup := by
  decide

end Environment

/-! ## Settings -/

/-- Settings that an environment can spell with the growth of the waits left out. -/
structure Settings.Spellable (s : Settings) : Prop where
  multiplier : s.retry.multiplier = ({} : RetrySettings).multiplier
  json : s.logging.json = ({} : LogSettings).json
  departments : ∀ name ∈ s.sync.departments, Environment.IsName name

namespace Environment

/-- The environment spells the settings: the departments are listed in it, and the numbers stand in
it as numerals. -/
structure Encodes (env : Environment) (s : Settings) : Prop where
  endpoint : env endpointName = some s.planner.endpoint
  departments : ∃ parts, Lists s.sync.departments parts ∧
    env departmentsName = some (",".intercalate parts)
  interval : env.Holds intervalName s.sync.intervalSeconds.toNat
  maxCreates : env.Holds maxCreatesName s.sync.maxCreates.toNat
  enabled : env enabledName = some (if s.sync.enabled then "true" else "false")
  timeout : env.Holds timeoutName s.planner.timeoutSeconds.toNat
  maxAttempts : env.Holds maxAttemptsName s.retry.maxAttempts.toNat
  baseDelay : env.Holds baseDelayName s.retry.baseDelayMs.toNat
  multiplier : env multiplierName = none
  maxDelay : env.Holds maxDelayName s.retry.maxDelayMs.toNat
  level : env logLevelName = some s.logging.level

variable {env : Environment} {s : Settings}

theorem Encodes.fault?_eq_none (encodes : env.Encodes s) :
    ∀ v ∈ inspected, v.fault? (env v.name) = none := by
  simp only [inspected, List.forall_mem_cons]
  refine ⟨?endpoint, ?departments, encodes.interval.fault?_uint64, encodes.maxCreates.fault?_uint64,
    encodes.maxAttempts.fault?_uint32, encodes.baseDelay.fault?_uint64, ?multiplier,
    encodes.maxDelay.fault?_uint64, encodes.timeout.fault?_uint64, List.forall_mem_nil _⟩
  case endpoint => simp [Variable.needed, encodes.endpoint]
  case departments =>
    obtain ⟨parts, -, set⟩ := encodes.departments
    simp [Variable.needed, set]
  case multiplier => simp [Variable.optional, encodes.multiplier]

theorem Encodes.settings_eq (spellable : s.Spellable) (encodes : env.Encodes s) :
    env.settings = s := by
  have departments : Environment.departments ((env departmentsName).getD "") =
      s.sync.departments := by
    obtain ⟨parts, lists, set⟩ := encodes.departments
    rw [set]
    exact departments_of_lists lists spellable.departments
  have enabled : ((env enabledName).map isOn).getD true = s.sync.enabled := by
    rw [encodes.enabled]
    cases s.sync.enabled <;> decide
  have multiplier : env.value multiplierName ({} : RetrySettings).multiplier Decimal.readFloat =
      s.retry.multiplier := by
    rw [spellable.multiplier, Environment.value, parsed, encodes.multiplier]
    rfl
  have logging : ({ level := s.logging.level } : LogSettings) = s.logging :=
    congrArg (LogSettings.mk s.logging.level) spellable.json.symm
  simp only [settings, departments, encodes.interval.value_uint64, encodes.maxCreates.value_uint64,
    enabled, encodes.maxAttempts.value_uint32, encodes.baseDelay.value_uint64, multiplier,
    encodes.maxDelay.value_uint64, encodes.endpoint, encodes.timeout.value_uint64, encodes.level,
    Option.getD_some, logging]

/-- An environment that spells settings comes to what is found when they are looked through. -/
theorem Encodes.ofEnvironment_eq_checked (spellable : s.Spellable) (encodes : env.Encodes s) :
    Settings.ofEnvironment env = s.checked := by
  rw [Environment.ofEnvironment_eq, report_of_sound encodes.fault?_eq_none,
    encodes.settings_eq spellable]

/-- A number beyond its limit is a fault. -/
theorem exists_fault {name : String} {limit n : Nat} (listed : (name, limit) ∈ numberLimits)
    (holds : env.Holds name n) (beyond : limit < n) :
    ∃ v ∈ inspected, v.name = name ∧ v.fault? (env v.name) = some (.badVariable name .tooLarge) := by
  obtain ⟨v, mem, rfl, counts⟩ := exists_inspected listed
  refine ⟨v, mem, rfl, ?_⟩
  rw [counts env n holds, if_neg (Nat.not_le.2 beyond)]

end Environment

/-- Valid settings are loaded from every environment that spells them. A numeral beyond the limit of
its setting makes loading fail with a configuration error whatever the other variables hold, and
where these spell settings the error is about this variable. -/
theorem Settings.ofEnvironment_of_encodes :
    (∀ (env : Environment) (s : Settings), s.validate = .ok () → s.Spellable → env.Encodes s →
      ofEnvironment env = .ok s) ∧
    ∀ (env : Environment) (name : String) (limit n : Nat),
      (name, limit) ∈ Environment.numberLimits → env.Holds name n → limit < n →
        (∃ details, (ofEnvironment env).mapError LoadError.toDomain = .error (.config details)) ∧
        ∀ (spelling : Environment) (s : Settings), spelling.Encodes s →
          (∀ other, other ≠ name → env other = spelling other) →
            ofEnvironment env = .error (.badVariable name .tooLarge) := by
  constructor
  · intro env s valid spellable encodes
    rw [encodes.ofEnvironment_eq_checked spellable]
    exact checked_eq_ok_iff.2 ⟨validate_eq_ok_iff.1 valid, rfl⟩
  · intro env name limit n listed holds beyond
    obtain ⟨v, mem, named, fault⟩ := Environment.exists_fault listed holds beyond
    rw [Environment.ofEnvironment_eq]
    constructor
    · obtain ⟨first, -, reported⟩ := Environment.report_of_fault mem fault
      exact ⟨first.message, by rw [reported]; rfl⟩
    · intro spelling s encodes same
      refine Environment.report_of_only_fault mem fault ?_ Environment.inspected_distinct
      intro other mem' differs
      rw [same other.name (named ▸ differs)]
      exact encodes.fault?_eq_none other mem'

/-- Settings whose numbers are as large as they can be. -/
def Settings.largest : Settings where
  sync :=
    { departments := ["rooms", "halls"]
      intervalSeconds := 18446744073709551615
      maxCreates := 18446744073709551615
      enabled := false }
  retry :=
    { RetrySettings.longest with maxAttempts := 4294967295 }
  planner := { endpoint := "https://planner", timeoutSeconds := 18446744073709551615 }

/-- An environment that spells them, with blanks around names and numerals and with names left
blank. -/
def Environment.largest : Environment := fun name =>
  [(endpointName, "https://planner"), (departmentsName, " rooms,, \thalls ,"),
    (intervalName, " 18446744073709551615"), (maxCreatesName, "18446744073709551615\n"),
    (enabledName, "false"), (timeoutName, "+18446744073709551615"),
    (maxAttemptsName, "\t4294967295 "), (baseDelayName, "018446744073709551615"),
    (maxDelayName, "18446744073709551615"), (logLevelName, "info")].lookup name

/-- The largest numbers are loaded, and one more attempt is too many. -/
theorem Settings.ofEnvironment_of_encodes_largest :
    Settings.ofEnvironment .largest = .ok .largest ∧
    Settings.ofEnvironment (Function.update Environment.largest Environment.maxAttemptsName
      (some "4294967296")) = .error (.badVariable Environment.maxAttemptsName .tooLarge) := by
  have spells (numeral : String) (n : Nat)
      (digits : numeral.toList ≠ [] ∧ numeral.toList.all Char.isDigit = true ∧
        Decimal.valueOf numeral.toList = n) : Decimal.Spells numeral n :=
    ⟨numeral.toList, digits.1, List.all_eq_true.1 digits.2.1, digits.2.2, .inl rfl⟩
  have most : Decimal.Spells "18446744073709551615" 18446744073709551615 := by
    have written : Decimal.text 18446744073709551615 = "18446744073709551615" := by decide
    exact written ▸ Decimal.spells_text 18446744073709551615
  have signed : Decimal.Spells "+18446744073709551615" 18446744073709551615 :=
    ⟨"18446744073709551615".toList, by decide, List.all_eq_true.1 (by decide), by decide,
      .inr (by decide)⟩
  have names : Environment.Lists ["rooms", "halls"] [" rooms", "", " \thalls ", ""] :=
    .name ⟨" ", "", by decide, by decide, by decide⟩ (.blank (by decide)
      (.name ⟨" \t", " ", by decide, by decide, by decide⟩ (.blank (by decide) .nil)))
  have encodes : Environment.largest.Encodes .largest :=
    { endpoint := by decide
      departments := ⟨_, names, by decide⟩
      interval := ⟨_, _, most, ⟨" ", "", by decide, by decide, rfl⟩, by decide⟩
      maxCreates := ⟨_, _, most, ⟨"", "\n", by decide, by decide, rfl⟩, by decide⟩
      enabled := by decide
      timeout := ⟨_, _, signed, .refl _, by decide⟩
      maxAttempts := ⟨_, _, spells "4294967295" _ (by decide),
        ⟨"\t", " ", by decide, by decide, rfl⟩, by decide⟩
      baseDelay := ⟨_, _, spells "018446744073709551615" _ (by decide), .refl _, by decide⟩
      multiplier := by decide
      maxDelay := ⟨_, _, most, .refl _, by decide⟩
      level := by decide }
  have spellable : Settings.largest.Spellable :=
    { multiplier := rfl
      json := rfl
      departments := by
        have name (s : String) (plain : s ≠ "" ∧ ',' ∉ s.toList ∧
            s.toList.any Text.isBlank = false) : Environment.IsName s :=
          ⟨plain.1, plain.2.1, .of_visible fun c mem => by
            simpa using List.any_eq_false.1 plain.2.2 c mem⟩
        exact List.forall_mem_cons.2 ⟨name _ (by decide),
          List.forall_mem_singleton.2 (name _ (by decide))⟩ }
  have sound : Settings.largest.flaw?.isNone = true := by decide +kernel
  obtain ⟨loads, overflows⟩ := Settings.ofEnvironment_of_encodes
  constructor
  · exact loads _ _ (validate_eq_ok_iff.2 (Option.isNone_iff_eq_none.1 sound)) spellable encodes
  · refine (overflows _ Environment.maxAttemptsName (UInt32.size - 1) 4294967296 (by decide) ?_
      (by decide)).2 .largest .largest encodes fun other differs =>
        Function.update_of_ne differs _ _
    exact ⟨_, _, spells "4294967296" _ (by decide), .refl _, Function.update_self _ _ _⟩

end CalendarSync
