import CalendarSync.Data.Forms
import CalendarSync.Data.Json.Reader
import CalendarSync.Data.Toml.Reader
import CalendarSync.Settings.LoadError

/-!
# Settings from a file

Configuration files are found at a given path or, under one of four names, in the working directory
and the two directories above it, and then likewise from the directory of the running program. The
extension of the name decides the notation.
-/

namespace CalendarSync
set_option autoImplicit false

/-- What a path leads to. -/
inductive FileEntry where
  | text (contents : String)
  /-- A file whose bytes are no text. -/
  | binary
  | directory
deriving DecidableEq

/-- A place among the files: the names that lead to it from the root. -/
structure Location where
  names : List String
deriving DecidableEq

namespace Location

/-- Where paths that start with a slash begin. -/
def root : Location := ⟨[]⟩

/-- Follows one part of a path; above the root there is only the root. -/
def follow (l : Location) (part : String) : Location :=
  if part = "" ∨ part = "." then l
  else if part = ".." then ⟨l.names.dropLast⟩
  else ⟨l.names ++ [part]⟩

/-- The directory that holds the place. -/
def parent? (l : Location) : Option Location :=
  if l.names.isEmpty then none else some ⟨l.names.dropLast⟩

/-- The path from the root to the place. -/
def path (l : Location) : String :=
  "/" ++ "/".intercalate l.names

/-- The parts of a path. -/
def parts (path : String) : List String :=
  (path.toList.splitOn '/').map String.ofList

end Location

/-- The files as a program sees them. -/
structure FileTree where
  files : List (Location × FileEntry)
  /-- Where paths without a slash at the start begin, if that can be told. -/
  workingDirectory : Option Location
  /-- Where the running program is, if that can be told. -/
  executable : Option Location

namespace FileTree

/-- The entry at a place, if it is listed. -/
def entry? (tree : FileTree) (place : Location) : Option FileEntry :=
  (tree.files.find? fun f => f.1 = place).map (·.2)

/-- The working directory and the directory of the running program. -/
def bases (tree : FileTree) : List Location :=
  tree.workingDirectory.toList ++ (tree.executable.bind Location.parent?).toList

/-- The place is a directory: it is listed as one, holds something that is listed, or is the root, one
of the bases or above one. -/
def isDirectory (tree : FileTree) (place : Location) : Bool :=
  match tree.entry? place with
  | some entry => entry = .directory
  | none =>
    place.names.isEmpty ||
      (tree.files.map (·.1) ++ tree.bases).any fun l => place.names.isPrefixOf l.names

/-- Follows one part of a path, which must start in a directory. -/
def follow? (tree : FileTree) (place : Location) (part : String) : Option Location :=
  if tree.isDirectory place then some (place.follow part) else none

/-- The number of bytes that a path may have. -/
def maxPathBytes : Nat := 4095

/-- What a path leads to, if anything is there. An empty path leads nowhere, nor does one that is
too long. -/
def find? (tree : FileTree) (path : String) : Option FileEntry := do
  let parts := Location.parts path
  if path.isEmpty ∨ maxPathBytes < path.utf8ByteSize then none
  else
    let start ← if parts.head? = some "" then some .root else tree.workingDirectory
    let place ← parts.foldlM tree.follow? start
    match tree.entry? place with
    | some entry => some entry
    | none => if tree.isDirectory place then some .directory else none

/-- Something is at the path. -/
def exists? (tree : FileTree) (path : String) : Bool :=
  (tree.find? path).isSome

end FileTree

/-- The names of configuration files, the first one preferred. -/
def configFileNames : List String :=
  ["planner-sync.json", "planner-sync.toml", "config.json", "config.toml"]

/-- The path that goes on from a directory. -/
def joinPath (directory more : String) : String :=
  if directory.toList.getLast? = some '/' then directory ++ more else directory ++ "/" ++ more

namespace FileTree

/-- The directories in which configuration files are looked for, in this order. -/
def searched (tree : FileTree) : List String :=
  tree.bases.flatMap fun base =>
    [base.path, joinPath base.path "..", joinPath base.path "../.."]

/-- The paths at which configuration files are looked for, in this order. -/
def standardPaths (tree : FileTree) : List String :=
  tree.searched.flatMap fun directory => configFileNames.map (joinPath directory)

/-- The first standard path at which something is. -/
def probe (tree : FileTree) : Option String :=
  tree.standardPaths.find? tree.exists?

end FileTree

/-- The last name of a path, unless the path ends by going up. -/
def fileName? (path : String) : Option String :=
  match ((Location.parts path).filter fun p => p ≠ "" ∧ p ≠ ".").getLast? with
  | some ".." => none
  | name => name

/-- What follows the last dot of a file's name; a dot at its start does not count. -/
def extension? (path : String) : Option String := do
  let name ← fileName? path
  let ending := name.toList.reverse.takeWhile (· ≠ '.')
  if ending.length + 1 < name.length then some (String.ofList ending.reverse) else none

/-- The value of a TOML file. What stands after the last field of a section that is written as a
list is never looked at. -/
def readToml? (contents : String) : Option Data.Value :=
  ((Data.Toml.read? contents).map Settings.cutSections).filter Data.Value.isSkippable

/-- Reads settings from the text of a file; without an extension it is taken for JSON. -/
def Settings.parse (path contents : String) : Except LoadError Settings :=
  let decoded (format : FileFormat) (v : Option Data.Value) : Except LoadError Settings :=
    match v.bind Settings.decode? with
    | some s => .ok s
    | none => .error (.badFormat format)
  let extension := (extension? path).getD "json"
  if extension = "toml" then decoded .toml (readToml? contents)
  else if extension = "json" then decoded .json (Data.Json.read? contents)
  else .error (.unknownFormat extension)

/-- Loads settings from a path, or from the first standard path at which something is. -/
def Settings.ofFile (tree : FileTree) (path : Option String) : Except LoadError Settings := do
  let path ← match path with
    | some path => if tree.exists? path then .ok path else .error (.fileNotFound path)
    | none =>
      match tree.probe with
      | some path => .ok path
      | none => .error .noFile
  match tree.find? path with
  | some (.text contents) => (← Settings.parse path contents).checked
  | _ => .error .unreadableFile

end CalendarSync
