import CollectionRunner.Log.Record
import CollectionRunner.Run

namespace CollectionRunner.Log

/-- Targets of the records. -/
def hostTarget : String := "pmrun::script::bindings"

def sandboxTarget : String := "pmrun::script::sandbox"

def scopeTarget : String := "pmrun::scope"

def exchangeTarget : String := "pmrun::executor::runner"

def engineTarget : String := "pmrun::engine"

/-- The record of something that a script has left. -/
def ofEvent? : Script.Event → Option Record
  | .logged level line => some ⟨.debug, hostTarget, line, [("console", .quoted level.name)]⟩
  | .outcome o =>
    some ⟨.debug, hostTarget, "test finished",
      [("test", .plain o.name), ("passed", .truth o.passed)]⟩
  | _ => none

/-- The record of a script that was stopped by its deadline. -/
def ofDeadline (phase : Phase) : Option ScriptError → List Record
  | some (.timeout deadline) =>
    [⟨.warn, sandboxTarget, "script interrupted by watchdog",
      [("deadline_ms", .number (deadline / 1000)), ("phase", .quoted phase.tag)]⟩]
  | _ => []

/-- The records of one script. -/
def ofScript (phase : Phase) (r : Script.Report) : List Record :=
  r.journal.filterMap ofEvent? ++ ofDeadline phase r.failure ++
    [⟨.debug, sandboxTarget, "script finished",
      [("phase", .quoted phase.tag), ("tests", .number r.result.outcomes.length),
       ("errors", .number r.result.errors.length)]⟩]

/-- The records of an exchange. -/
def ofExchange (r : Response) : List Record :=
  let url : String × Datum := ("url", .plain r.request.url)
  let status : String × Datum := ("status", .number r.statusCode)
  let sending : Record :=
    ⟨.info, exchangeTarget, "sending request", [("method", .plain r.request.method), url]⟩
  let ending : Record :=
    match r.error with
    | none =>
      ⟨.info, exchangeTarget, "response received",
        [status, ("elapsed_ms", .number (r.elapsed / 1000000))]⟩
    | some e@(.body _) =>
      ⟨.warn, exchangeTarget, "response body could not be read",
        [status, ("error", .plain e.message), url]⟩
    | some e => ⟨.warn, exchangeTarget, "request failed", [("error", .plain e.message), url]⟩
  [sending, ending]

/-- The records of the scripts on a response, or of there being none to look at. -/
def ofTests (name : String) : Option (List Script.Report) → List Record
  | some reports => reports.flatMap (ofScript .test)
  | none =>
    [⟨.warn, engineTarget, "skipping test scripts after failed request",
      [("request", .quoted name)]⟩]

/-- The records of a run. -/
def ofRun (r : Run) : List Record :=
  r.before.flatMap (ofScript .prerequest) ++
    [⟨.debug, scopeTarget, "built scope snapshot", [("variables", .number r.variableCount)]⟩] ++
    ofExchange r.response ++ ofTests r.name r.after ++
    [⟨.info, engineTarget, "request run finished",
      [("request", .plain r.path), ("passed", .truth r.passed),
       ("tests", .number r.tests.outcomes.length)]⟩]

end CollectionRunner.Log
