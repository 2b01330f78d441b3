import CalendarSync.Settings.Environment
import CalendarSync.Settings.File

/-!
# Loading settings

The environment is tried first, and a file is taken when the environment does not do.
-/

namespace CalendarSync
set_option autoImplicit false

/-- Loads settings from the environment or else from a file at one of the standard paths. -/
def Settings.load (env : Environment) (tree : FileTree) : Except LoadError Settings :=
  match Settings.ofEnvironment env with
  | .ok s => .ok s
  | .error _ => Settings.ofFile tree none

end CalendarSync
