namespace CollectionRunner

structure Outcome where
  name : String
  passed : Bool
  message : Option String
  deriving DecidableEq, Repr

def Outcome.pass (name : String) : Outcome := ⟨name, true, none⟩

def Outcome.fail (name message : String) : Outcome := ⟨name, false, some message⟩

/-- An error of a script, as against a test that fails. A deadline is in microseconds. -/
inductive ScriptError where
  | timeout (deadline : Nat)
  | runtime (message : String)
  | invalidTest (message : String)
  | setup (message : String)
  deriving DecidableEq, Repr

namespace ScriptError

def message : ScriptError → String
  | .timeout deadline => "script timed out after " ++ toString (deadline / 1000) ++ " ms"
  | .runtime m => "script error: " ++ m
  | .invalidTest m => "invalid pm.test call: " ++ m
  | .setup m => "sandbox setup failed: " ++ m

def isTimeout : ScriptError → Bool
  | .timeout _ => true
  | _ => false

end ScriptError

/-- Everything that one script or several of them reported, each kind in the order recorded. -/
structure TestResult where
  outcomes : List Outcome := []
  errors : List ScriptError := []
  logs : List String := []
  deriving DecidableEq, Repr

namespace TestResult

def empty : TestResult := {}

def isEmpty (r : TestResult) : Bool := r.outcomes.isEmpty && r.errors.isEmpty && r.logs.isEmpty

/-- There are no errors, and no test fails. -/
def passed (r : TestResult) : Bool := r.errors.isEmpty && r.outcomes.all (·.passed)

def failures (r : TestResult) : List Outcome := r.outcomes.filter (! ·.passed)

def passedCount (r : TestResult) : Nat := (r.outcomes.filter (·.passed)).length

def timedOut (r : TestResult) : Bool := r.errors.any (·.isTimeout)

/-- The first outcome of a name. -/
def get? (r : TestResult) (name : String) : Option Outcome := r.outcomes.find? (·.name == name)

/-- What is reported later stands after what was reported before. -/
def merge (r other : TestResult) : TestResult :=
  ⟨r.outcomes ++ other.outcomes, r.errors ++ other.errors, r.logs ++ other.logs⟩

end TestResult

end CollectionRunner
