import CollectionRunner.Collection.Tree
import CollectionRunner.Template

namespace CollectionRunner

/-- A variable and the scope that supplied it. -/
structure ScopedVariable where
  key : String
  value : String
  source : String
  deriving DecidableEq, Repr

/-- Variables with the highest priority first, and the keys that they have. -/
structure Snapshot where
  entries : List ScopedVariable := []
  seen : List String := []
  deriving DecidableEq, Repr

namespace Snapshot

def empty : Snapshot := {}

/-- Adds one variable with a priority lower than those already there. -/
def add (source : String) (s : Snapshot) (v : Variable) : Snapshot :=
  if s.seen.contains v.key then s
  else ⟨s.entries ++ [⟨v.key, v.value, source⟩], v.key :: s.seen⟩

/-- Adds a scope with a priority lower than those already there. -/
def push (s : Snapshot) (source : String) (vars : List Variable) : Snapshot :=
  vars.foldl (add source) s

def find? (s : Snapshot) (key : String) : Option ScopedVariable :=
  s.entries.find? (·.key == key)

def get? (s : Snapshot) (key : String) : Option String := (s.find? key).map (·.value)

def sourceOf? (s : Snapshot) (key : String) : Option String := (s.find? key).map (·.source)

def size (s : Snapshot) : Nat := s.entries.length

def isEmpty (s : Snapshot) : Bool := s.entries.isEmpty

/-- Puts a value under a key, in place of the one already there. -/
def putEntry (key value : String) : List (String × String) → List (String × String)
  | [] => [(key, value)]
  | (k, v) :: rest => if k = key then (k, value) :: rest else (k, v) :: putEntry key value rest

/-- The map from keys to values; of entries with one key the last would count. -/
def toMap (s : Snapshot) : List (String × String) :=
  s.entries.foldl (fun m v => putEntry v.key v.value m) []

/-- The text with its placeholders replaced by the values of the snapshot. -/
def resolve (s : Snapshot) (text : String) : String := Template.resolve s.get? text

end Snapshot

/-- The value of a key in a map. -/
def mapValue? (m : List (String × String)) (key : String) : Option String := m.lookup key

/-- The text with its placeholders replaced by the values of a map. -/
def resolveMap (m : List (String × String)) (text : String) : String :=
  Template.resolve (mapValue? m) text

/-- Adds the variables of folders, each labelled with the names that lead to it. -/
def pushFolders (s : Snapshot) (breadcrumb : List String) (chain : List Item) : Snapshot :=
  chain.zipIdx.foldl (fun s (folder, depth) =>
    s.push ("Folder: " ++ String.intercalate " / " (breadcrumb.take (depth + 1))) folder.vars) s

/-- The variables in effect at a breadcrumb: those of the environment that are enabled, then the
collection's, then those of each folder from the outermost inwards. -/
def Snapshot.build (collection : Option Collection) (breadcrumb : List String)
    (environment : Option Environment) : Snapshot :=
  let s := match environment with
    | none => Snapshot.empty
    | some e => Snapshot.empty.push ("Environment: " ++ e.name) (e.values.filter (·.enabled))
  match collection with
  | none => s
  | some c =>
    pushFolders (s.push ("Collection: " ++ c.info.name) c.vars) breadcrumb
      (c.folderChain breadcrumb)

end CollectionRunner
