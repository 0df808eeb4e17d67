import CollectionRunner.Collection.Tree
import CollectionRunner.Http.Exchange
import CollectionRunner.Script.Run
import CollectionRunner.Text.Blank
import CollectionRunner.Variables

namespace CollectionRunner

/-- What runs work on: a collection, and an environment beside it, if there is one. -/
structure Workspace where
  collection : Collection := {}
  environment : Option Environment := none

namespace Workspace

/-- The variables that scripts work on. Without an environment its list is empty. -/
def lists (w : Workspace) : VariableLists :=
  ⟨w.collection.vars, (w.environment.map (·.values)).getD []⟩

/-- The workspace with the given variables in place of its own. Without an environment nothing is
kept of those set in it. -/
def keep (w : Workspace) (l : VariableLists) : Workspace where
  collection := { w.collection with vars := l.collection }
  environment := w.environment.map fun e => { e with values := l.environment }

end Workspace

/-- The events around an item at a breadcrumb: the collection's, those of the folders from the
outermost inwards, and the item's own. -/
def Collection.eventsAround (c : Collection) (breadcrumb : List String) (item : Item) :
    List Event :=
  c.events ++ (c.folderChain breadcrumb).flatMap (·.events) ++ item.events

/-- The scripts of a phase that hold more than blanks, in the order of their events. -/
def Phase.sources (phase : Phase) (events : List Event) : List String :=
  ((events.filter (·.phase? == some phase)).map (·.script.source)).filter (Text.trim · ≠ "")

/-- What requests are run with; scripts and exchanges may have effects. Exchanges take the given time,
in nanoseconds. -/
structure Runner (m : Type → Type := Id) where
  config : Config := {}
  engine : Script.Engine m
  network : Http.Network m
  elapsed : Nat := 0

namespace Runner

variable {m : Type → Type} [Monad m]

/-- Runs scripts one after another, each on the variables that the one before it has left. -/
def runScripts (r : Runner m) (phase : Phase) (response : Option Response) (l : VariableLists) :
    List String → m (List Script.Report × VariableLists)
  | [] => return ([], l)
  | source :: rest => do
    let report ← r.engine source phase response l.view
    let (reports, l) ← r.runScripts phase response (l.setAll report.writes) rest
    return (report :: reports, l)

/-- Runs the scripts that belong to a phase and keeps the variables that they set. -/
def runPhase (r : Runner m) (phase : Phase) (response : Option Response) (events : List Event)
    (w : Workspace) : m (List Script.Report × Workspace) := do
  let (reports, l) ← r.runScripts phase response w.lists (phase.sources events)
  return (reports, w.keep l)

end Runner

/-- Everything that scripts run one after another have reported. -/
def Script.Report.merged (reports : List Script.Report) : TestResult :=
  (reports.map Script.Report.result).foldl TestResult.merge .empty

/-- What happened when a request was run. -/
structure Run where
  breadcrumb : List String
  name : String
  /-- What the scripts before the request have left, in order. -/
  before : List Script.Report
  /-- Variables that were in effect besides those of the settings. -/
  variableCount : Nat
  response : Response
  /-- What the scripts on the response have left; none of them ran when there was no response. -/
  after : Option (List Script.Report)

namespace Run

def path (r : Run) : String := joinPath r.breadcrumb r.name

def prerequest (r : Run) : TestResult := Script.Report.merged r.before

def tests (r : Run) : TestResult := Script.Report.merged (r.after.getD [])

/-- There is a complete response, and no script failed. -/
def passed (r : Run) : Bool :=
  r.response.error.isNone && r.prerequest.passed && r.tests.passed

end Run

/-- Why a request is not run. -/
inductive RunError where
  | notFound (breadcrumb : List String) (name : String)
  deriving DecidableEq, Repr

def RunError.message : RunError → String
  | .notFound breadcrumb name => "request '" ++ joinPath breadcrumb name ++ "' not found"

namespace Runner

variable {m : Type → Type} [Monad m]

/-- Runs an item at a breadcrumb: its scripts, the exchange with the variables that they left, and
the scripts on the response, if one came. -/
def runItem (r : Runner m) (breadcrumb : List String) (name : String) (item : Item)
    (w : Workspace) : m (Run × Workspace) := do
  let events := w.collection.eventsAround breadcrumb item
  let (before, w) ← r.runPhase .prerequest none events w
  let known := Snapshot.build (some w.collection) breadcrumb w.environment
  let snapshot := r.config.snapshot w.collection breadcrumb w.environment
  let response ← Http.execute r.network r.elapsed (item.request.getD {}) snapshot
  let run (after : Option (List Script.Report)) : Run :=
    { breadcrumb, name, before, variableCount := known.size, response, after }
  if response.error.isSome then return (run none, w)
  else
    let (after, w) ← r.runPhase .test (some response) events w
    return (run (some after), w)

/-- Runs the request of a name at a breadcrumb, on a workspace that it leaves changed. -/
def runOn (r : Runner m) (breadcrumb : List String) (name : String) (w : Workspace) :
    m (Except RunError Run × Workspace) :=
  match w.collection.findRequest? breadcrumb name with
  | none => return (.error (.notFound breadcrumb name), w)
  | some item => do
    let (run, w) ← r.runItem breadcrumb name item w
    return (.ok run, w)

/-- Runs the request of a name at a breadcrumb. -/
def run (r : Runner m) (breadcrumb : List String) (name : String) (w : Workspace) :
    m (Except RunError (Run × Workspace)) := do
  let (result, w) ← r.runOn breadcrumb name w
  return result.map (·, w)

end Runner

end CollectionRunner
