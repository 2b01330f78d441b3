import CalendarSync.Proofs.Environment

/-!
# Settings from the environment or a file

An environment is sound if nothing is wrong with its variables nor with the settings that they spell.
A sound one decides what is loaded. Any other gives way to the first file found, also where the
variables that have to be set are set, and what was wrong with it is then not reported.
-/

namespace CalendarSync
set_option autoImplicit false

/-! ## Sound environments -/

/-- The error is about a variable. -/
def LoadError.IsVariable : LoadError → Prop
  | missingVariable _ | badVariable _ _ => True
  | _ => False

namespace Environment

/-- Nothing is wrong with the variables nor with the settings that they spell. -/
structure Sound (env : Environment) : Prop where
  readable : env.faults = []
  flawless : env.settings.flaw? = none

/-- The variables that have to be set are set. -/
structure Complete (env : Environment) : Prop where
  endpoint : env endpointName ≠ none
  departments : env departmentsName ≠ none

variable {env : Environment} {s : Settings} {e : LoadError}

theorem ofEnvironment_eq_match (env : Environment) : Settings.ofEnvironment env =
    match env.faults with
    | [] => env.settings.checked
    | e :: _ => .error e :=
  ofEnvironment_eq env

theorem ofEnvironment_eq_ok_iff : Settings.ofEnvironment env = .ok s ↔
    env.Sound ∧ s = env.settings := by
  rw [ofEnvironment_eq_match]
  cases all : env.faults with
  | nil =>
    rw [Settings.checked_eq_ok_iff]
    exact ⟨fun ⟨flawless, same⟩ => ⟨⟨all, flawless⟩, same⟩,
      fun ⟨sound, same⟩ => ⟨sound.flawless, same⟩⟩
  | cons first rest =>
    have unsound : ¬ env.Sound := fun sound => by simpa [all] using sound.readable
    simp [unsound]

/-- Loading fails with the first fault of the variables or else with the flaw of the settings. -/
theorem ofEnvironment_eq_error_iff : Settings.ofEnvironment env = .error e ↔
    env.faults.head? = some e ∨
      env.faults = [] ∧ ∃ flaw, env.settings.flaw? = some flaw ∧ e = .flawed flaw := by
  rw [ofEnvironment_eq_match]
  cases all : env.faults with
  | nil => simp [Settings.checked_eq_error_iff]
  | cons first rest => simp

theorem isVariable_of_mem_faults (mem : e ∈ env.faults) : e.IsVariable := by
  have needed (name : String) (text : Option String)
      (fault : (Variable.needed name).fault? text = some e) : e.IsVariable := by
    cases text with
    | none => exact Option.some.inj fault ▸ trivial
    | some s => cases fault
  have optional {α : Type} (name : String) (read : String → Except Decimal.ReadError α)
      (text : Option String) (fault : (Variable.optional name read).fault? text = some e) :
      e.IsVariable := by
    cases text with
    | none => cases fault
    | some s =>
      simp only [Variable.optional] at fault
      split at fault
      · cases fault
      · exact Option.some.inj fault ▸ trivial
  obtain ⟨v, mem, fault⟩ := List.mem_filterMap.1 mem
  simp only [inspected, List.mem_cons, List.not_mem_nil, or_false] at mem
  rcases mem with rfl | rfl | rfl | rfl | rfl | rfl | rfl | rfl | rfl
  · exact needed _ _ fault
  · exact needed _ _ fault
  all_goals exact optional _ _ _ fault

/-- What has to be set and is not is a fault. -/
theorem Sound.complete (sound : env.Sound) : env.Complete := by
  have fault (v : Variable) (mem : v ∈ inspected) : v.fault? (env v.name) = none :=
    List.filterMap_eq_nil_iff.1 sound.readable v mem
  constructor
  · intro unset
    simpa [Variable.needed, unset] using fault (.needed endpointName) (by simp [inspected])
  · intro unset
    simpa [Variable.needed, unset] using fault (.needed departmentsName) (by simp [inspected])

end Environment

/-! ## Files -/

namespace FileTree
variable {tree : FileTree} {path : String} {entry : FileEntry} {s : Settings} {e : LoadError}

/-- The entry is at the first of the standard paths at which something is. -/
def Finds (tree : FileTree) (path : String) (entry : FileEntry) : Prop :=
  ∃ before after, tree.standardPaths = before ++ path :: after ∧
    (∀ other ∈ before, tree.find? other = none) ∧ tree.find? path = some entry

/-- The file that is found describes the settings, and these have no flaw. -/
def Offers (tree : FileTree) (s : Settings) : Prop :=
  ∃ path contents, tree.Finds path (.text contents) ∧ Settings.parse path contents = .ok s ∧
    s.flaw? = none

theorem finds_iff : tree.Finds path entry ↔
    tree.probe = some path ∧ tree.find? path = some entry := by
  unfold Finds probe
  rw [List.find?_eq_some_iff_append]
  constructor
  · rintro ⟨before, after, split, nothing, found⟩
    exact ⟨⟨by simp [exists?, found], before, after, split, fun other mem => by
      simp [exists?, nothing other mem]⟩, found⟩
  · rintro ⟨⟨-, before, after, split, nothing⟩, found⟩
    exact ⟨before, after, split, fun other mem => by simpa [exists?] using nothing other mem, found⟩

theorem ofFile_none (tree : FileTree) : Settings.ofFile tree none =
    match tree.probe with
    | none => .error .noFile
    | some path =>
      match tree.find? path with
      | some (.text contents) => Settings.parse path contents >>= Settings.checked
      | _ => .error .unreadableFile := by
  unfold Settings.ofFile
  cases tree.probe <;> rfl

theorem ofFile_none_eq_ok_iff : Settings.ofFile tree none = .ok s ↔ tree.Offers s := by
  rw [ofFile_none, Offers]
  simp only [finds_iff]
  constructor
  · intro loaded
    split at loaded
    · cases loaded
    · next path probed =>
      split at loaded
      · next contents found =>
        obtain ⟨parsed, described, loaded⟩ := Except.of_bind_ok loaded
        obtain ⟨flawless, rfl⟩ := Settings.checked_eq_ok_iff.1 loaded
        exact ⟨path, contents, ⟨probed, found⟩, described, flawless⟩
      · cases loaded
  · rintro ⟨path, contents, ⟨probed, found⟩, described, flawless⟩
    simp only [probed, found, described]
    exact Settings.checked_eq_ok_iff.2 ⟨flawless, rfl⟩

theorem not_isVariable_of_parse {contents : String}
    (refused : Settings.parse path contents = .error e) : ¬ e.IsVariable := by
  unfold Settings.parse at refused
  extract_lets decoded extension at refused
  have unreadable (format : FileFormat) (v : Option Data.Value)
      (refused : decoded format v = .error e) : ¬ e.IsVariable := by
    simp only [decoded] at refused
    split at refused
    · cases refused
    · exact Except.error.inj refused ▸ id
  split_ifs at refused
  · exact unreadable _ _ refused
  · exact unreadable _ _ refused
  · exact Except.error.inj refused ▸ id

theorem not_isVariable_of_ofFile (refused : Settings.ofFile tree none = .error e) :
    ¬ e.IsVariable := by
  rw [ofFile_none] at refused
  split at refused
  · exact Except.error.inj refused ▸ id
  · next path probed =>
    split at refused
    · next contents found =>
      cases read : Settings.parse path contents with
      | error cause =>
        rw [read] at refused
        exact Except.error.inj refused ▸ not_isVariable_of_parse read
      | ok parsed =>
        rw [read] at refused
        obtain ⟨flaw, -, rfl⟩ := Settings.checked_eq_error_iff.1 refused
        exact id
    · exact Except.error.inj refused ▸ id

end FileTree

/-! ## Loading -/

namespace Settings
variable {env : Environment} {tree : FileTree}

theorem load_of_sound (sound : env.Sound) : load env tree = .ok env.settings := by
  rw [load, Environment.ofEnvironment_eq_ok_iff.2 ⟨sound, rfl⟩]

theorem load_of_not_sound (unsound : ¬ env.Sound) : load env tree = ofFile tree none := by
  unfold load
  split
  · next loaded => exact absurd (Environment.ofEnvironment_eq_ok_iff.1 loaded).1 unsound
  · rfl

/-- The file takes the place of what is wrong with an environment unless the same is wrong with the
file. -/
theorem load_eq_ofEnvironment_of_not_sound (unsound : ¬ env.Sound) :
    load env tree = ofEnvironment env ↔ ∃ flaw, env.faults = [] ∧
      env.settings.flaw? = some flaw ∧ ofFile tree none = .error (.flawed flaw) := by
  rw [load_of_not_sound unsound]
  constructor
  · intro same
    obtain ⟨e, refused⟩ : ∃ e, ofEnvironment env = .error e := by
      cases loaded : ofEnvironment env with
      | error e => exact ⟨e, rfl⟩
      | ok s => exact absurd (Environment.ofEnvironment_eq_ok_iff.1 loaded).1 unsound
    rcases Environment.ofEnvironment_eq_error_iff.1 refused with
      first | ⟨readable, flaw, flawed, rfl⟩
    · have mem : e ∈ env.faults := List.mem_of_head? first
      exact absurd (Environment.isVariable_of_mem_faults mem)
        (FileTree.not_isVariable_of_ofFile (same.trans refused))
    · exact ⟨flaw, readable, flawed, same.trans refused⟩
  · rintro ⟨flaw, readable, flawed, refused⟩
    rw [refused, Environment.ofEnvironment_eq_error_iff.2 (.inr ⟨readable, flaw, flawed, rfl⟩)]

/-- What the environment comes to is returned exactly if it is sound or if the settings of the file
have the same flaw. Settings are those of a sound environment or else those of the file found, and a
variable that cannot be read is never reported. Without the variables that have to be set a file is
read. -/
theorem load_by_soundness (env : Environment) (tree : FileTree) :
    (load env tree = ofEnvironment env ↔ env.Sound ∨ ∃ flaw, env.faults = [] ∧
      env.settings.flaw? = some flaw ∧ ofFile tree none = .error (.flawed flaw)) ∧
    (∀ s, load env tree = .ok s ↔
      env.Sound ∧ s = env.settings ∨ ¬ env.Sound ∧ tree.Offers s) ∧
    (∀ name cause, load env tree ≠ .error (.badVariable name cause)) ∧
    (¬ env.Complete → load env tree = ofFile tree none) := by
  have incomplete (missing : ¬ env.Complete) : load env tree = ofFile tree none :=
    load_of_not_sound fun sound => missing sound.complete
  by_cases sound : env.Sound
  · have loaded : load env tree = .ok env.settings := load_of_sound sound
    have read : ofEnvironment env = .ok env.settings :=
      Environment.ofEnvironment_eq_ok_iff.2 ⟨sound, rfl⟩
    refine ⟨?_, fun s => ?_, fun name cause => ?_, incomplete⟩
    · simp [sound, loaded, read]
    · simp [sound, loaded, eq_comm]
    · simp [loaded]
  · refine ⟨?_, fun s => ?_, fun name cause refused => ?_, incomplete⟩
    · simp [sound, load_eq_ofEnvironment_of_not_sound]
    · rw [load_of_not_sound sound, FileTree.ofFile_none_eq_ok_iff]
      simp [sound]
    · rw [load_of_not_sound sound] at refused
      exact FileTree.not_isVariable_of_ofFile refused trivial

end Settings

/-- An environment in which a number is mistyped. -/
def Environment.mistyped : Environment := fun name =>
  [(endpointName, "https://env"), (departmentsName, "north"),
    (maxAttemptsName, "many")].lookup name

/-- A file that only says where the Planner is, in the working directory. -/
def FileTree.single : FileTree where
  files :=
    [(⟨["srv", "config.json"]⟩, .text "\x7b\"planner\": \x7b\"endpoint\": \"https://file\"\x7d\x7d")]
  workingDirectory := some ⟨["srv"]⟩
  executable := none

/-- The same file, found from the directory of the running program only. -/
def FileTree.installed : FileTree :=
  { single with
    workingDirectory := some ⟨["home"]⟩
    executable := some ⟨["srv", "bin", "sync"]⟩ }

theorem Environment.faults_mistyped :
    Environment.mistyped.faults = [.badVariable maxAttemptsName .invalidDigit] :=
  rfl

theorem Environment.not_sound_mistyped : ¬ Environment.mistyped.Sound := by
  intro sound
  simpa [faults_mistyped] using sound.readable

theorem FileTree.ofFile_single_installed {tree : FileTree} (mem : tree = single ∨ tree = installed) :
    ∃ s, Settings.ofFile tree none = .ok s ∧ s.planner.endpoint = "https://file" ∧
      s.sync.departments = [] := by
  have read : (Settings.ofFile tree none).toOption.map
      (fun s => (s.planner.endpoint, s.sync.departments)) = some ("https://file", []) := by
    rcases mem with rfl | rfl <;> decide +kernel
  cases loaded : Settings.ofFile tree none with
  | error e => simp [loaded, Except.toOption] at read
  | ok s => exact ⟨s, rfl, by simpa [loaded, Except.toOption] using read⟩

/-- With nothing set the file is read, and so it is in place of the mistyped number, also where it is
found from the directory of the program only. The number is not reported even if there is no file. -/
theorem Settings.load_by_soundness_mistyped :
    load (fun _ => none) .single = ofFile .single none ∧
    (∃ s, FileTree.single.Offers s ∧ load .mistyped .single = .ok s) ∧
    (∃ s, FileTree.installed.Offers s ∧ load .mistyped .installed = .ok s) ∧
    load .mistyped .single ≠ ofEnvironment .mistyped ∧
    load .mistyped ⟨[], some .root, none⟩ ≠
      .error (.badVariable Environment.maxAttemptsName .invalidDigit) := by
  obtain ⟨-, -, -, incomplete⟩ := Settings.load_by_soundness (fun _ => none) .single
  obtain ⟨agrees, -⟩ := Settings.load_by_soundness .mistyped .single
  obtain ⟨-, -, unreported, -⟩ := Settings.load_by_soundness .mistyped ⟨[], some .root, none⟩
  have replaced (tree : FileTree) (mem : tree = .single ∨ tree = .installed) :
      ∃ s, tree.Offers s ∧ load .mistyped tree = .ok s := by
    obtain ⟨s, loaded, -⟩ := FileTree.ofFile_single_installed mem
    have offered : tree.Offers s := FileTree.ofFile_none_eq_ok_iff.1 loaded
    obtain ⟨-, loads, -⟩ := Settings.load_by_soundness .mistyped tree
    exact ⟨s, offered, (loads s).2 (.inr ⟨Environment.not_sound_mistyped, offered⟩)⟩
  refine ⟨incomplete fun complete => complete.endpoint rfl, replaced _ (.inl rfl),
    replaced _ (.inr rfl), fun same => ?_, unreported _ _⟩
  rcases agrees.1 same with sound | ⟨flaw, readable, -⟩
  · exact Environment.not_sound_mistyped sound
  · simp [Environment.faults_mistyped] at readable

/-- Both variables that have to be set are set, and a file is loaded all the same. -/
theorem Settings.load_mistyped_replaced :
    Environment.mistyped.Complete ∧
    ofEnvironment .mistyped = .error (.badVariable Environment.maxAttemptsName .invalidDigit) ∧
    ∃ s, load .mistyped .single = .ok s ∧ s.planner.endpoint = "https://file" ∧
      s.sync.departments = [] := by
  refine ⟨⟨by decide, by decide⟩, ?_, ?_⟩
  · exact Environment.ofEnvironment_eq_error_iff.2 (.inl rfl)
  · rw [load_of_not_sound Environment.not_sound_mistyped]
    exact FileTree.ofFile_single_installed (.inl rfl)

end CalendarSync
