import CollectionRunner.Files.Path

namespace CollectionRunner.Files

inductive FileError where
  | notFound
  | notDirectory
  | isDirectory
  | notText
  deriving DecidableEq, Repr

def FileError.message : FileError → String
  | .notFound => "No such file or directory (os error 2)"
  | .notDirectory => "Not a directory (os error 20)"
  | .isDirectory => "Is a directory (os error 21)"
  | .notText => "stream did not contain valid UTF-8"

inductive Entry where
  | directory
  | file (bytes : ByteArray)

/-- Entries by the parts of their absolute paths, and the directory that relative paths start at. -/
structure Disk where
  workingDirectory : String
  entries : List (List String × Entry)

namespace Disk

/-- The entry at a place; a place is a directory as soon as something is below it. -/
def at? (d : Disk) (place : List String) : Option Entry :=
  match d.entries.find? (·.1 == place) with
  | some (_, e) => some e
  | none =>
    if d.entries.any fun (p, _) => place.isPrefixOf p then some .directory else none

/-- The entry that parts lead to from a place. -/
def walk (d : Disk) (place : List String) : List String → Except FileError Entry
  | [] => match d.at? place with
    | some e => .ok e
    | none => .error .notFound
  | part :: rest =>
    match d.at? place with
    | none => .error .notFound
    | some (.file _) => .error .notDirectory
    | some .directory =>
      if part = ".." then d.walk place.dropLast rest else d.walk (place ++ [part]) rest

/-- The places that a walk along parts may look at. -/
def visited (place : List String) : List String → List (List String)
  | [] => [place]
  | part :: rest =>
    place :: visited (if part = ".." then place.dropLast else place ++ [part]) rest

def entry (d : Disk) (path : String) : Except FileError Entry :=
  match d.walk [] (parts (join d.workingDirectory path)) with
  | .ok (.file bytes) =>
    if path.toList.getLast? == some '/' then .error .notDirectory else .ok (.file bytes)
  | r => r

def contains (d : Disk) (path : String) : Bool := (d.entry path).toBool

def isDirectory (d : Disk) (path : String) : Bool :=
  match d.entry path with
  | .ok .directory => true
  | _ => false

def readText (d : Disk) (path : String) : Except FileError String :=
  match d.entry path with
  | .error e => .error e
  | .ok .directory => .error .isDirectory
  | .ok (.file bytes) =>
    match String.fromUTF8? bytes with
    | some s => .ok s
    | none => .error .notText

end Disk

end CollectionRunner.Files
