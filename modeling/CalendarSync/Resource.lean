import CalendarSync.Text.Blank
import CalendarSync.Text.LowerCase
import CalendarSync.Timestamp
import CalendarSync.Uuid

/-!
# Resources

The staff of a department: the records kept locally, which are never removed but flagged with a
deletion time, and the entries of the Planner's list. Both are identified by their mail key.
-/

namespace CalendarSync
set_option autoImplicit false

/-- Mail addresses are compared in lower case and without blanks around them. -/
def mailKey (address : String) : String :=
  Text.lowerCase (Text.trim address)

/-- An entry of the Planner's list. -/
structure ListedResource where
  mail : String
  group : Option String
  externalId : Option String
  displayName : Option String
deriving DecidableEq

/-- The mail key of a listed resource. -/
def ListedResource.key (r : ListedResource) : String :=
  mailKey r.mail

/-- A local record. -/
structure Resource where
  id : Uuid
  department : String
  mail : String
  group : Option String
  deletedAt : Option Timestamp
  /-- The last error reported for the resource. -/
  errorCode : Option Int32
  externalId : Option String
  displayName : Option String
  createdAt : Timestamp
deriving DecidableEq

namespace Resource

/-- A new local record of a listed resource. -/
def ofListed (id : Uuid) (listed : ListedResource) (department : String) (createdAt : Timestamp) :
    Resource :=
  ⟨id, department, Text.trim listed.mail, listed.group, none, none, listed.externalId,
    listed.displayName, createdAt⟩

/-- The mail key of a record. -/
def key (r : Resource) : String :=
  mailKey r.mail

/-- The record has a deletion time. -/
def isDeleted (r : Resource) : Bool :=
  r.deletedAt.isSome

/-- The record is live, has a mail address and a group, and reported no error. -/
def isQualified (r : Resource) : Bool :=
  !Text.isBlankText r.mail && !r.isDeleted &&
    r.group.any (fun g => !Text.isBlankText g) && r.errorCode.isNone

/-- The record belongs to the department and is not deleted. -/
def isActiveIn (r : Resource) (department : String) : Bool :=
  r.department == department && !r.isDeleted

end Resource
end CalendarSync
