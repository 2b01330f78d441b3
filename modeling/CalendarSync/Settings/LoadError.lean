import CalendarSync.Decimal.Reader
import CalendarSync.Settings

/-!
# Loading errors

Why settings cannot be loaded.
-/

namespace CalendarSync
set_option autoImplicit false

/-- The notations of configuration files. -/
inductive FileFormat where
  | json
  | toml
deriving DecidableEq, Repr

/-- The name of a notation. -/
def FileFormat.name : FileFormat → String
  | json => "JSON"
  | toml => "TOML"

/-- Why settings cannot be loaded. -/
inductive LoadError where
  /-- A required variable is not set. -/
  | missingVariable (name : String)
  /-- A variable does not hold a number, or one that is too large. -/
  | badVariable (name : String) (cause : Decimal.ReadError)
  | fileNotFound (path : String)
  | noFile
  /-- The file is no text. -/
  | unreadableFile
  /-- The text does not follow its notation or does not describe settings. -/
  | badFormat (format : FileFormat)
  /-- No notation belongs to the file's extension. -/
  | unknownFormat (extension : String)
  | flawed (flaw : SettingsFlaw)

namespace LoadError

/-- The wording of a loading error. -/
def message : LoadError → String
  | missingVariable name => "Missing required environment variable: " ++ name
  | badVariable name cause => "Invalid value for " ++ name ++ ": " ++ cause.message
  | fileNotFound path => "Config file not found: " ++ path
  | noFile => "No config file found in any of the standard locations"
  | unreadableFile => "Failed to read config file"
  | badFormat format => "Invalid " ++ format.name ++ " format"
  | unknownFormat extension => "Unsupported config format: " ++ extension
  | flawed flaw => flaw.message

/-- A loading error is a configuration error. -/
def toDomain (e : LoadError) : DomainError :=
  .config e.message

end LoadError

/-- Accepts settings without a flaw. -/
def Settings.checked (s : Settings) : Except LoadError Settings :=
  match s.flaw? with
  | some flaw => .error (.flawed flaw)
  | none => .ok s

end CalendarSync
