import CollectionRunner.Console.Style
import CollectionRunner.Decimal.Fixed
import CollectionRunner.Run
import CollectionRunner.Unicode.Case
import CollectionRunner.Text.Clip

namespace CollectionRunner.Console

/-- A line of a report. -/
inductive Line where
  | title (path method url : String)
  /-- Stands above what scripts have reported: how many of their tests passed. -/
  | summary (label : String) (passed total : Nat)
  | logged (line : String)
  | passedTest (name : String)
  | failedTest (name message : String)
  | scriptError (error : ScriptError)
  /-- The status of a response that is not complete. -/
  | brokenStatus (status : String)
  | requestError (error : RequestError) (milliseconds : Float)
  | status (code : Nat) (status : String) (milliseconds : Float)
  | headers
  | header (name value : String)
  | body (bytes : Nat)
  | preview (text : String)

namespace Line

/-- The line of a test. -/
def ofOutcome (o : Outcome) : Line :=
  if o.passed then .passedTest o.name else .failedTest o.name (o.message.getD "")

/-- The lines on what scripts have reported, if that is anything. -/
def ofResult (label : String) (r : TestResult) : List Line :=
  if r.isEmpty then []
  else
    .summary label r.passedCount r.outcomes.length ::
      (r.logs.map .logged ++ r.outcomes.map ofOutcome ++ r.errors.map .scriptError)

/-- The lines on a response that is missing or not complete. -/
def ofError (r : Response) (e : RequestError) : List Line :=
  (if r.statusCode = 0 then [] else [.brokenStatus r.status]) ++ [.requestError e r.milliseconds]

/-- The lines on a complete response. At most `limit` bytes of its body are shown, and no line is
there for them when the limit is zero. -/
def ofResponse (limit : Nat) (r : Response) : List Line :=
  [.status r.statusCode r.status r.milliseconds, .headers] ++
    r.headers.map (fun (name, value) => .header name value) ++ [.body r.body.utf8ByteSize] ++
    (if limit = 0 then [] else [.preview (Text.clip limit r.body)])

/-- The report of a run. -/
def ofRun (limit : Nat) (r : Run) : List Line :=
  .title r.path r.response.request.method r.response.request.url ::
    (ofResult "Pre-request" r.prerequest ++
      match r.response.error with
      | some e => ofError r.response e
      | none => ofResponse limit r.response ++ ofResult "Tests" r.tests)

/-- Whether a line tells of a failure. -/
def isFailure : Line → Bool
  | .failedTest .. | .scriptError _ | .requestError .. => true
  | _ => false

/-- The style of a status: the first digit tells how the request went. -/
def statusStyle (code : Nat) : Style :=
  if 400 ≤ code then .red else if 300 ≤ code then .yellow else .green

def duration (milliseconds : Float) : Piece :=
  ⟨"(" ++ Decimal.fixed 1 (.ofFloat milliseconds) ++ " ms)", some .dimmed, 0⟩

/-- Pieces with a blank between them. -/
def spaced (pieces : List Piece) : List Piece := pieces.intersperse (.plain " ")

def styled (style : Style) (text : String) : Piece := { text, style := some style }

/-- The pieces of a line, those below a heading set in from the margin. -/
def pieces : Line → List Piece
  | title path method url => spaced [styled .bold path, styled .bold method, styled .cyan url]
  | summary label passed total =>
    spaced [styled .bold (label ++ ":"),
      styled .dimmed (toString passed ++ "/" ++ toString total ++ " passed")]
  | logged line => .plain "  " :: spaced [styled .dimmed "›", styled .dimmed line]
  | passedTest name => .plain "  " :: spaced [styled .green "✓", .plain name]
  | failedTest name message =>
    .plain "  " :: spaced [styled .red "✗", .plain name, styled .red message]
  | scriptError error => .plain "  " :: spaced [styled .boldRed "!", styled .red error.message]
  | brokenStatus s => spaced [styled .bold "Status:", styled .red s]
  | requestError error ms =>
    spaced [styled .bold "Error:", styled .red error.message, duration ms]
  | status code s ms => spaced [styled .bold "Status:", styled (statusStyle code) s, duration ms]
  | headers => [styled .bold "Response headers"]
  | header name value => [.plain "  ", styled .cyan name, .plain ": ", styled .dimmed value]
  | body bytes =>
    spaced [styled .bold "Body:", styled .dimmed ("(" ++ toString bytes ++ " bytes)")]
  | preview text => [styled .dimmed text]

def render (colours : Bool) (l : Line) : String := renderLine colours l.pieces

end Line

/-- The report of a run as it is printed. -/
def report (colours : Bool) (limit : Nat) (r : Run) : String :=
  String.join ((Line.ofRun limit r).map (·.render colours))

/-- The line of a request in a listing: its method in capitals and where it is found. -/
def listingLine (colours : Bool) (breadcrumb : List String) (item : Item) : String :=
  let method := Unicode.Case.upperString ((item.request.map (·.method)).getD "")
  renderLine colours [⟨method, some .bold, 7⟩, .plain (" " ++ joinPath breadcrumb item.name)]

/-- The requests of a collection as they are printed. -/
def listing (colours : Bool) (c : Collection) : String :=
  String.join (c.requests.map fun (breadcrumb, item) => listingLine colours breadcrumb item)

end CollectionRunner.Console
