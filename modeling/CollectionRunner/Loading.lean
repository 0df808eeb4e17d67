import CollectionRunner.Collection.Decode
import CollectionRunner.Config
import CollectionRunner.Dotenv.File
import CollectionRunner.Files.Disk
import CollectionRunner.Variables

namespace CollectionRunner

/-- What went wrong, from what was being done down to the reason. -/
structure Failure where
  causes : List String
  deriving DecidableEq, Repr

/-- The causes on one line. -/
def Failure.message (f : Failure) : String := String.intercalate ": " f.causes

/-- The failure of something larger. -/
def Failure.during (what : String) (f : Failure) : Failure := ⟨what :: f.causes⟩

namespace Loading

open Files

/-- The text of a file that holds a thing of the named kind. -/
def readFile (disk : Disk) (kind path : String) : Except Failure String :=
  (disk.readText path).mapError fun e => ⟨["reading " ++ kind ++ " " ++ path, e.message]⟩

/-- The thing of the named kind that a text holds. -/
def parseFile {α : Type} (read : Json.Decoder α) (kind path text : String) : Except Failure α :=
  (Json.readText read text).mapError fun f => ⟨["parsing " ++ kind ++ " " ++ path, f.message]⟩

def collection (disk : Disk) (path : String) : Except Failure Collection := do
  parseFile Collection.decode "collection" path (← readFile disk "collection" path)

/-- Whether a file is written as assignments, as its name tells. -/
def isDotenv (path : String) : Bool :=
  ['v', 'n', 'e', '.'].isPrefixOf ((fileName? path).getD "").toList.reverse

/-- Puts an assignment in place of an earlier one of the same key, or at the end. -/
def assign (values : List Variable) (key value : String) : List Variable :=
  match values with
  | [] => [{ key, value }]
  | v :: rest => if v.key = key then { v with value } :: rest else v :: assign rest key value

/-- The variables of assignments, unless one of them cannot be read. -/
def assignAll {ε : Type} (values : List Variable) :
    List (Except ε (String × String)) → Except ε (List Variable)
  | [] => .ok values
  | .error e :: _ => .error e
  | .ok (key, value) :: rest => assignAll (assign values key value) rest

/-- The environment that a dotenv file makes; it is named after the file. -/
def dotenvEnvironment (path text : String) : Except Failure Environment :=
  match assignAll [] (Dotenv.parse text) with
  | .error e => .error ⟨["parsing env file " ++ path, e.message]⟩
  | .ok values => .ok { name := ((fileName? path).map stem).getD "env", values }

def environment (disk : Disk) (path : String) : Except Failure Environment := do
  let text ← readFile disk "environment" path
  if isDotenv path then dotenvEnvironment path text
  else parseFile Environment.decode "environment" path text

/-- Settings and where they were found. -/
structure LoadedConfig where
  config : Config
  path : String
  directory : String

/-- The file of settings that a target means, and its directory: the target itself, or the file
with the usual name when the target is a directory. -/
def configPlace (disk : Disk) (target : String) : String × String :=
  let resolved := join disk.workingDirectory target
  if disk.isDirectory resolved then (join resolved Config.fileName, resolved)
  else (resolved, (parent? resolved).getD disk.workingDirectory)

/-- The settings at a target; `none` when there is no such file. -/
def config (disk : Disk) (target : String) : Except Failure (Option LoadedConfig) :=
  let (path, directory) := configPlace disk target
  if disk.contains path then do
    let text ← readFile disk "config" path
    let config ← parseFile Config.decode "config" path text
    return some ⟨config, path, directory⟩
  else .ok none

end Loading

end CollectionRunner
