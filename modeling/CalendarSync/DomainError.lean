/-!
# Errors

What can go wrong in the library, by category, with the wording shown to users.
-/

namespace CalendarSync
set_option autoImplicit false

/-- The categories of errors. -/
inductive ErrorKind where
  | database
  | config
  | network
  | notFound
  | invalidInput
  | contract
  | shutdown
  | internal
deriving DecidableEq, Repr

namespace ErrorKind

/-- The stable name of a category. -/
def name : ErrorKind → String
  | database => "Database"
  | config => "Config"
  | network => "Network"
  | notFound => "NotFound"
  | invalidInput => "InvalidInput"
  | contract => "Contract"
  | shutdown => "Shutdown"
  | internal => "Internal"

/-- All categories. -/
def all : List ErrorKind :=
  [database, config, network, notFound, invalidInput, contract, shutdown, internal]

/-- The category with exactly this name. -/
def ofName? (s : String) : Option ErrorKind :=
  all.find? fun k => k.name = s

/-- What stands before the details of an error. -/
def heading : ErrorKind → String
  | database => "Database error"
  | config => "Configuration error"
  | network => "Network error"
  | notFound => "Not found"
  | invalidInput => "Invalid input"
  | contract => "Contract violation"
  | shutdown => "Aborted due to shutdown"
  | internal => "Internal error"

theorem ofName?_name (k : ErrorKind) : ofName? k.name = some k := by
  cases k <;> decide

end ErrorKind

/-- An error: its category and its details. -/
structure DomainError where
  kind : ErrorKind
  details : String
deriving DecidableEq, Repr

namespace DomainError

/-- The wording of an error. -/
def message (e : DomainError) : String :=
  e.kind.heading ++ ": " ++ e.details

/-- Work stopped because of a shutdown, which is no failure. -/
def isShutdown (e : DomainError) : Bool :=
  e.kind == .shutdown

/-- A configuration error. -/
def config (details : String) : DomainError := ⟨.config, details⟩

/-- A network error. -/
def network (details : String) : DomainError := ⟨.network, details⟩

/-- Something asked for does not exist. -/
def notFound (details : String) : DomainError := ⟨.notFound, details⟩

/-- A caller handed over inconsistent data. -/
def contract (details : String) : DomainError := ⟨.contract, details⟩

/-- Work stopped because of a shutdown. -/
def shutdown (details : String) : DomainError := ⟨.shutdown, details⟩

end DomainError
end CalendarSync
