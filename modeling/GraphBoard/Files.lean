import GraphBoard.Error

namespace GraphBoard

inductive Entry (α : Type) where
  | folder
  | file (content : α)
  deriving DecidableEq, Repr

structure Files (α : Type) where
  entries : List (List String × Entry α)
  deriving Repr

namespace Files

variable {α : Type}

def empty : Files α := ⟨[]⟩

def pathOf (path : String) : List String :=
  (path.toList.splitOn '/').map String.ofList

def entry? (files : Files α) (place : List String) : Option (Entry α) :=
  if place.isEmpty then some .folder else files.entries.lookup place

def put (files : Files α) (place : List String) (entry : Entry α) : Files α :=
  ⟨(place, entry) :: files.entries.filter (·.1 != place)⟩

def folderFailure? (files : Files α) (place : List String) : Option FileFailure :=
  match files.entry? place with
  | some .folder => none
  | some (.file _) => some .notDirectory
  | none => some .notFound

/-- The place a path leads to from another. Only folders can be passed. -/
def locate (files : Files α) (place : List String) : List String → Except FileFailure (List String)
  | [] => .ok place
  | name :: rest =>
    match files.folderFailure? place with
    | some failure => .error failure
    | none =>
      if name == "" || name == "." then locate files place rest
      else if name == ".." then locate files place.dropLast rest
      else locate files (place ++ [name]) rest

def read (files : Files α) (path : String) : Except FileFailure α := do
  if path.isEmpty then throw .notFound
  match files.entry? (← files.locate [] (pathOf path)) with
  | some (.file content) => return content
  | some .folder => throw .isDirectory
  | none => throw .notFound

def write (files : Files α) (place : List String) (content : α) : Except FileFailure (Files α) :=
  match files.entry? place with
  | some .folder => .error .isDirectory
  | _ =>
    match files.folderFailure? place.dropLast with
    | some failure => .error failure
    | none => .ok (files.put place (.file content))

/-- The place of a path with all folders on the way made that are not there. What was made stays
when the way is blocked. -/
def makeFolders (files : Files α) (place : List String) :
    List String → Files α × Except FileFailure (List String)
  | [] => (files, .ok place)
  | name :: rest =>
    if name == "" || name == "." then makeFolders files place rest
    else if name == ".." then makeFolders files place.dropLast rest
    else
      match files.entry? (place ++ [name]) with
      | some .folder => makeFolders files (place ++ [name]) rest
      | some (.file _) => (files, .error .notDirectory)
      | none => makeFolders (files.put (place ++ [name]) .folder) (place ++ [name]) rest

def names (files : Files α) (place : List String) : List String :=
  files.entries.filterMap fun (other, _) =>
    if other.dropLast == place then other.getLast? else none

end Files

end GraphBoard
