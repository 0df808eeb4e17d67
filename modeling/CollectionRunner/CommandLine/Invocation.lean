import CollectionRunner.CommandLine.Reader

namespace CollectionRunner.CommandLine

/-- What is to be done. -/
inductive Task where
  /-- Runs one request, and shows at most `preview` bytes of the body that comes back. -/
  | run (collection request : String) (environment config : Option String) (preview : Nat)
  /-- Lists the requests of a collection. -/
  | list (collection : String)
  deriving DecidableEq, Repr

structure Invocation where
  task : Task
  jsonLogs : Bool := false
  verbosity : Nat := 0
  deriving DecidableEq, Repr

def collectionOperand (about : String) : Operand := ⟨"COLLECTION", .path, about⟩

def requestOperand : Operand :=
  ⟨"REQUEST", .text, "Request path, folders then request name (e.g. Users/List users)"⟩

def environmentFlag : Flag :=
  ⟨"env", some 'e', .value "ENV" .path, "Environment file (Postman JSON or .env)", none, false⟩

def configFlag : Flag :=
  ⟨"config", some 'c', .value "CONFIG" .path, "Directory or file containing pmrun.json", none,
    false⟩

def previewFlag : Flag :=
  ⟨"preview", some 'p', .value "PREVIEW" .count, "Preview the first N bytes of the response body",
    some "512", false⟩

def jsonLogsFlag : Flag :=
  ⟨"json-logs", none, .switch, "Emit logs as JSON lines on stderr", none, true⟩

def verboseFlag : Flag :=
  ⟨"verbose", some 'v', .counter, "Increase log verbosity (-v debug, -vv trace)", none, true⟩

def runCommand : Command where
  name := "run"
  about := "Run one request, with its pre-request and test scripts"
  flags := [environmentFlag, configFlag, previewFlag]
  operands := [collectionOperand "Collection file (Postman v2.1 JSON)", requestOperand]

def listCommand : Command where
  name := "list"
  about := "List the requests in a collection"
  operands := [collectionOperand ""]

def program : Command where
  name := "pmrun"
  about := "Run requests and scripts from Postman collections"
  version := some "0.0.0-dev"
  flags := [jsonLogsFlag, verboseFlag]
  commands := [runCommand, listCommand]

def given? (given : List Given) (key : String) : Option Given :=
  given.find? (·.argument.key == key)

/-- The value of an argument, or else the one that it has when it is not given. -/
def valueOf (given : List Given) (key default : String) : String :=
  ((given? given key).bind (·.value)).getD default

def Task.ofGiven? (command : String) (given : List Given) : Option Task :=
  let collection := valueOf given "COLLECTION" ""
  if command = runCommand.name then
    let preview := (readCount (valueOf given "preview" (previewFlag.default.getD ""))).toOption
    some (.run collection (valueOf given "REQUEST" "") ((given? given "env").bind (·.value))
      ((given? given "config").bind (·.value)) (preview.getD 0))
  else if command = listCommand.name then some (.list collection)
  else none

/-- How often a shared flag was given, at the last of the commands that it was given to. -/
def countOf (key : String) (levels : List (String × List Given)) : Nat :=
  ((levels.filterMap fun l => (given? l.2 key).map (·.count)).getLast?).getD 0

/-- What the arguments of the program ask for. -/
def Invocation.ofArguments (arguments : List String) : Except Stop Invocation := do
  let levels ← Reading.read (.top program) {} arguments
  match levels.getLast?.bind fun (name, given) => Task.ofGiven? name given with
  | some task =>
    return ⟨task, countOf jsonLogsFlag.long levels != 0, countOf verboseFlag.long levels⟩
  | none => throw (.guidance (Level.top program).help)

end CollectionRunner.CommandLine
