import CalendarSync.DomainError
import CalendarSync.LogFilter.Directive

/-!
# Log filters

A filter is a list of directives between commas. The first directive that is refused decides what
becomes of the filter: a malformed one makes it invalid, and one with a torn part leaves it without
an answer.
-/

namespace CalendarSync.LogFilter
set_option autoImplicit false

/-- Divides characters at commas; what is empty does not count. -/
def directives (s : String) : List (List Char) :=
  ((s.splitOn ",").map String.toList).filter fun d => !d.isEmpty

/-- Checks the directives of a filter, the first one first. -/
def check (s : String) : Except Flaw Unit :=
  (directives s).forM checkDirective

/-- Chooses a filter: the override if it is valid, or else the configured level. There is no answer
if one of them has a torn part. -/
def choose (level : String) (override? : Option String) : Option (Except DomainError String) :=
  let configured : Option (Except DomainError String) :=
    match check level with
    | .ok _ => some (.ok level)
    | .error .malformed => some (.error (.config ("Invalid log level '" ++ level ++ "'")))
    | .error .torn => none
  match override? with
  | none => configured
  | some s =>
    match check s with
    | .ok _ => some (.ok s)
    | .error .malformed => configured
    | .error .torn => none

end CalendarSync.LogFilter
