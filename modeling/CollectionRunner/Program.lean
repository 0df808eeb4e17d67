import CollectionRunner.CommandLine.Invocation
import CollectionRunner.Console.Report
import CollectionRunner.Loading
import CollectionRunner.Log.Filter
import CollectionRunner.Log.Run
import CollectionRunner.RequestPath

namespace CollectionRunner

/-- What the program finds around it. -/
structure Surroundings where
  disk : Files.Disk
  engine : Script.Limits → Script.Engine := Script.engine
  network : Http.Network
  /-- The time that an exchange takes, in nanoseconds. -/
  elapsed : Nat := 0
  colours : Bool := false
  /-- The setting that says what is logged, if there is one. -/
  logSetting : Option String := none
  /-- The time of day, as the log shows it. -/
  time : String := ""

/-- What the program leaves: its exit status and what it printed. -/
structure Transcript where
  exit : Nat
  output : String := ""
  errors : String := ""
  deriving DecidableEq, Repr

/-- A run that is about to begin: everything was loaded, and the request's path makes sense. -/
structure Assignment where
  config : Config
  workspace : Workspace
  breadcrumb : List String
  name : String

/-- Where settings are looked for: at the given place, or beside the collection. -/
def configTarget (workingDirectory collection : String) (config : Option String) : String :=
  match config with
  | some path => Files.join workingDirectory path
  | none => (Files.parent? (Files.join workingDirectory collection)).getD workingDirectory

/-- The paths that a task may look at. -/
def CommandLine.Task.paths (workingDirectory : String) : CommandLine.Task → List String
  | .list collection => [Files.join workingDirectory collection]
  | .run collection _ environment config _ =>
    let target := configTarget workingDirectory collection config
    [target, Files.join target Config.fileName, Files.join workingDirectory collection] ++
      (environment.map (Files.join workingDirectory)).toList

namespace Surroundings

/-- A path as seen from the working directory. -/
def locate (s : Surroundings) (path : String) : String := Files.join s.disk.workingDirectory path

/-- Loads what a run needs: the settings, the collection and the environment; then takes the
request's path apart. -/
def assignment (s : Surroundings) (collection request : String)
    (environment config : Option String) : Except Failure Assignment := do
  let target := configTarget s.disk.workingDirectory collection config
  let loaded ← (Loading.config s.disk target).mapError (.during "loading configuration")
  let c ← Loading.collection s.disk (s.locate collection)
  let e ← environment.mapM fun path => Loading.environment s.disk (s.locate path)
  match RequestPath.split? request with
  | none => throw ⟨[RequestPath.invalidMessage request]⟩
  | some (breadcrumb, name) =>
    return ⟨(loaded.map (·.config)).getD {}, ⟨c, e⟩, breadcrumb, name⟩

/-- Carries out a run that is about to begin. -/
def carryOut (s : Surroundings) (a : Assignment) : Except Failure Run :=
  let runner : Runner := ⟨a.config, s.engine (.ofConfig a.config), s.network, s.elapsed⟩
  match runner.run a.breadcrumb a.name a.workspace with
  | .ok (run, _) => .ok run
  | .error e => .error ⟨[e.message]⟩

/-- Loads what a run needs and carries it out. -/
def runRequest (s : Surroundings) (collection request : String)
    (environment config : Option String) : Except Failure Run := do
  s.carryOut (← s.assignment collection request environment config)

end Surroundings

namespace Failure

/-- The lines of a cause, of which the first is set in by a text and the others by some blanks. -/
def indented (first : String) (blanks : Nat) (cause : String) : String :=
  first ++ cause.replace "\n" ("\n" ++ String.ofList (List.replicate blanks ' '))

/-- The causes below the first one; several of them are numbered. -/
def causeLines : List String → List String
  | [] => []
  | [cause] => [indented "    " 4 cause]
  | causes => causes.zipIdx.map fun (cause, n) =>
    let number := toString n
    indented (String.ofList (List.replicate (5 - number.length) ' ') ++ number ++ ": ") 7 cause

/-- What is printed when a failure ends the program. -/
def text (f : Failure) : String :=
  let causes := (causeLines (f.causes.drop 1)).map ("\n" ++ ·)
  "Error: " ++ (f.causes.head?).getD "" ++
    (if causes.isEmpty then "" else "\n\nCaused by:" ++ String.join causes) ++ "\n"

end Failure

namespace Transcript

def ofFailure (f : Failure) : Transcript := { exit := 1, errors := f.text }

/-- The program stops at its command line. -/
def ofStop : CommandLine.Stop → Transcript
  | .answer text => { exit := 0, output := text }
  | .guidance text => { exit := 2, errors := text }
  | .complaint c => { exit := 2, errors := c.text }

end Transcript

namespace Surroundings

/-- The lines of a log that an invocation has written. -/
def logText (s : Surroundings) (i : CommandLine.Invocation) (records : List Log.Record) : String :=
  let filter := Log.Filter.choose s.logSetting i.verbosity
  let format : Log.Format := if i.jsonLogs then .json else .text
  String.join ((records.filter filter.admits).map fun r => format.line s.time r ++ "\n")

/-- Does what an invocation asks for. -/
def perform (s : Surroundings) (i : CommandLine.Invocation) : Transcript :=
  match i.task with
  | .list collection =>
    match Loading.collection s.disk (s.locate collection) with
    | .error f => .ofFailure f
    | .ok c => { exit := 0, output := Console.listing s.colours c }
  | .run collection request environment config preview =>
    match s.runRequest collection request environment config with
    | .error f => .ofFailure f
    | .ok run =>
      { exit := if run.passed then 0 else 1
        output := Console.report s.colours preview run
        errors := s.logText i (Log.ofRun run) }

/-- The program, given its arguments. -/
def program (s : Surroundings) (arguments : List String) : Transcript :=
  match CommandLine.Invocation.ofArguments arguments with
  | .error stop => .ofStop stop
  | .ok i => s.perform i

end Surroundings

end CollectionRunner
