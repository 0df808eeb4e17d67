import CollectionRunner.Script.Behaviour
import CollectionRunner.Http.Response

namespace CollectionRunner.Script

/-- What a script has left with its host, in order, and the error that it ended with, if any. -/
structure Report where
  journal : List Event := []
  failure : Option ScriptError := none
  deriving DecidableEq, Repr

namespace Event

def outcome? : Event → Option Outcome
  | .outcome o => some o
  | _ => none

def misuse? : Event → Option ScriptError
  | .misuse reason => some (.invalidTest reason)
  | _ => none

def line? : Event → Option String
  | .logged _ line => some line
  | _ => none

def write? : Event → Option Write
  | .wrote w => some w
  | _ => none

end Event

namespace Report

/-- The script's tests, errors and lines. The error that it ended with stands last. -/
def result (r : Report) : TestResult :=
  { outcomes := r.journal.filterMap (·.outcome?)
    errors := r.journal.filterMap (·.misuse?) ++ r.failure.toList
    logs := r.journal.filterMap (·.line?) }

/-- The variables that the script has set, in order. -/
def writes (r : Report) : List Write := r.journal.filterMap (·.write?)

end Report

/-- A script about to run: what it does, and how something that it throws is described. -/
structure Launch (σ θ : Type) where
  body : Behaviour σ θ
  describe : θ → σ → Behaviour σ θ
  /-- How the error is described that ends a script when it is told to end. -/
  describeInterrupt : σ → Behaviour σ θ

namespace Launch

variable {σ θ : Type}

/-- How the error is described that a script has ended with, if it has not returned. -/
def description? (launch : Launch σ θ) : Ending θ → σ → Option (Behaviour σ θ)
  | .returned _, _ => none
  | .threw thrown, state => some (launch.describe thrown state)
  | .interrupted, state => some (launch.describeInterrupt state)

/-- What goes wrong when a script runs, and what the host knows in the end. -/
def conclude (schedule : Nat → Bool) (launch : Launch σ θ) (l : Ledger) :
    Option ScriptError × Ledger :=
  let (ending, state, l) := launch.body.run schedule l
  match launch.description? ending state with
  | none => (none, l)
  | some description =>
    let (ending, _, l) := description.run schedule l
    (some (.runtime (ending.text?.getD "")), l)

/-- Runs a script that was set up, or reports why it was not. A deadline that has interrupted the
script is its error whatever else happens; it is in microseconds. -/
def report (deadline : Nat) (schedule : Nat → Bool) (view : View) :
    Except String (Launch σ θ) → Report
  | .error reason => { failure := some (.setup reason) }
  | .ok launch =>
    let (failure, l) := launch.conclude schedule { view }
    { journal := l.journal.reverse
      failure := if l.interrupted then some (.timeout deadline) else failure }

end Launch

/-- Something that runs scripts: given a script's source, its phase, the response that it is to look
at and what it can read of the variables, it reports what the script leaves. -/
abbrev Engine (m : Type → Type := Id) := String → Phase → Option Response → View → m Report

end CollectionRunner.Script
