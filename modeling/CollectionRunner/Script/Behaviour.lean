import CollectionRunner.TestResult
import CollectionRunner.Variables
import CollectionRunner.Watchdog

namespace CollectionRunner.Script

/-- The functions of a script's console. -/
inductive Level where
  | log
  | info
  | warn
  | error
  deriving DecidableEq, Repr

def Level.name : Level → String
  | .log => "log"
  | .info => "info"
  | .warn => "warn"
  | .error => "error"

/-- How a stretch of script code ends. -/
inductive Ending (θ : Type) where
  /-- It returned, to a host that wanted a text, with one or without. -/
  | returned (text : Option String)
  | threw (thrown : θ)
  | interrupted

namespace Ending

variable {θ : Type}

def text? : Ending θ → Option String
  | .returned text => text
  | _ => none

def isReturn : Ending θ → Bool
  | .returned _ => true
  | _ => false

end Ending

/-- What a script does next. Between calls of its host it has a state of its own, of type `σ`; what
it throws is of type `θ`. -/
inductive Behaviour (σ θ : Type) where
  | ended (ending : Ending θ) (state : σ)
  /-- Asks whether it has to end. -/
  | poll (next : Bool → Behaviour σ θ)
  | get (scope : VariableScope) (key : String) (next : Option String → Behaviour σ θ)
  | set (write : Write) (next : Behaviour σ θ)
  | log (level : Level) (line : String) (next : Behaviour σ θ)
  /-- The host runs script code for a text and goes on without one if none comes back. -/
  | attempt (body : Behaviour σ θ) (next : Option String → σ → Behaviour σ θ)
  /-- A call of `pm.test`: the name if there is one, what calling the function does if there is
  one, how what it throws is described, and how the script goes on after the call. -/
  | test (state : σ) (name : Option String) (callback : Option (Behaviour σ θ))
    (describe : θ → σ → Behaviour σ θ) (next : Ending θ → σ → Behaviour σ θ)

/-- Something that a script has left with its host. -/
inductive Event where
  | outcome (o : Outcome)
  | misuse (reason : String)
  | logged (level : Level) (line : String)
  | wrote (w : Write)
  deriving DecidableEq, Repr

/-- What the host knows during a run. -/
structure Ledger where
  view : View
  watchdog : Watchdog := .armed
  /-- How often the script has asked whether it has to end. -/
  polls : Nat := 0
  /-- What the script has left, the latest first. -/
  journal : List Event := []

namespace Ledger

def record (l : Ledger) (e : Event) : Ledger := { l with journal := e :: l.journal }

def write (l : Ledger) (w : Write) : Ledger := { l.record (.wrote w) with view := l.view.after w }

/-- Answers a poll. The schedule tells of each poll whether the deadline has passed by then. -/
def poll (schedule : Nat → Bool) (l : Ledger) : Bool × Ledger :=
  let w := if schedule l.polls then l.watchdog.timeout else l.watchdog
  let (told, w) := w.poll
  (told, { l with watchdog := w, polls := l.polls + 1 })

def interrupted (l : Ledger) : Bool := l.watchdog.interrupted

end Ledger

def missingName : String := "first argument must be a test name"

def missingCallback (name : String) : String := "test '" ++ name ++ "' needs a callback function"

namespace Behaviour

variable {σ θ : Type}

/-- Runs a script. After an interrupt the failure of a test's function is passed on instead of
being an outcome. -/
def run (schedule : Nat → Bool) : Behaviour σ θ → Ledger → Ending θ × σ × Ledger
  | .ended ending state, l => (ending, state, l)
  | .poll next, l =>
    let (told, l) := l.poll schedule
    run schedule (next told) l
  | .get scope key next, l => run schedule (next (l.view.get? scope key)) l
  | .set w next, l => run schedule next (l.write w)
  | .log level line next, l => run schedule next (l.record (.logged level line))
  | .attempt body next, l =>
    let (ending, state, l) := run schedule body l
    run schedule (next ending.text? state) l
  | .test state none _ _ next, l =>
    run schedule (next (.returned none) state) (l.record (.misuse missingName))
  | .test state (some name) none _ next, l =>
    run schedule (next (.returned none) state) (l.record (.misuse (missingCallback name)))
  | .test _ (some name) (some callback) describe next, l =>
    match run schedule callback l with
    | (.returned _, state, l) =>
      run schedule (next (.returned none) state) (l.record (.outcome (.pass name)))
    | (.interrupted, state, l) => run schedule (next .interrupted state) l
    | (.threw thrown, state, l) =>
      if l.interrupted then run schedule (next (.threw thrown) state) l
      else
        let (ending, state, l) := run schedule (describe thrown state) l
        let message := ending.text?.getD ""
        run schedule (next (.returned none) state) (l.record (.outcome (.fail name message)))

/-- The ways to show a value: as the text that it is, as JSON if it is that kind of object, or as
the text that it converts to. -/
structure Shown (σ θ : Type) where
  text : Option String
  json : Option (σ → Behaviour σ θ)
  plain : σ → Behaviour σ θ

def unprintable : String := "<unprintable>"

/-- Shows a value in the first of its ways that gives a text. -/
def display (v : Shown σ θ) (state : σ) (next : String → σ → Behaviour σ θ) : Behaviour σ θ :=
  let plain (state : σ) : Behaviour σ θ :=
    .attempt (v.plain state) fun text state => next (text.getD unprintable) state
  match v.text, v.json with
  | some text, _ => next text state
  | none, some json =>
    .attempt (json state) fun text state =>
      match text with
      | some text => next text state
      | none => plain state
  | none, none => plain state

/-- The message of an exception, after its name unless that is the common one or empty. -/
def exceptionText (message : String) (name : Option String) : String :=
  match name with
  | some name => if name = "Error" ∨ name = "" then message else name ++ ": " ++ message
  | none => message

/-- Describes an exception by its message and its name, either of which script code may compute. -/
def describeException (message name : σ → Behaviour σ θ) (state : σ)
    (next : String → σ → Behaviour σ θ) : Behaviour σ θ :=
  .attempt (message state) fun text state =>
    .attempt (name state) fun name state => next (exceptionText (text.getD "") name) state

end Behaviour

end CollectionRunner.Script
