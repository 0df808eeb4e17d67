import CollectionRunner.Script.Host
import CollectionRunner.Script.Report
import CollectionRunner.Config

namespace CollectionRunner.Script

/-- Limits of a run: the deadline in microseconds, and the memory in bytes, where zero stands for no
limit. -/
structure Limits where
  deadline : Nat
  memory : Nat

namespace Limits

def ofConfig (c : Config) : Limits := ⟨c.scriptTimeout * 1000, c.scriptMemoryLimit⟩

/-- The memory that a script needs before it does anything. -/
def leastMemory : Nat := 163840

/-- Whether a deadline has passed when a script asks for the `n`-th time. A script that ends soon is
never too late. -/
def schedule (l : Limits) (n : Nat) : Bool := 200000 + l.deadline / 5 ≤ n

end Limits

/-- Everything that is there when a script begins, made once. -/
def beginning : Library.Beginning := Host.beginning

/-- More steps than a script takes one within another. -/
def stepLimit : Nat := 1000000000

/-- The steps of a whole script. -/
def steps (machine : Machine) (source : String) (s : Store) : Step :=
  let body : Exec Unit :=
    match Program.ofString source { file := "eval_script", isText := false } 0 with
    | .error (message, place) => Exec.sourceError "eval_script" message place
    | .ok p => Exec.runProgram p
  Exec.alone machine (do body; return none) s

/-- How something that ends a script is described, once the script has left all its calls. -/
def description (machine : Machine) (thrown : Exec Value) (s : Store) : Step :=
  Exec.alone machine
    (do
      let v ← thrown
      Exec.modify fun s => { s with depth := 0, calls := [] }
      return some (← Host.describeThrown v))
    s

/-- The error of a script that was told to end. It tells of the calls that were under way then. -/
def interruptError : Exec Value := do
  Exec.modify fun s => { s with calls := s.interruptedIn }
  Exec.newError Intrinsic.internalErrorPrototype.ref (.ofString "interrupted")

/-- The place of a character that ends a text for those who count on one to end it. -/
def nullPlace? (source : String) : Option Nat :=
  let before := source.toList.takeWhile (· != '\x00')
  if before.length = source.length then none
  else some ((before.map Char.utf8Size).foldl (· + ·) 0)

def nullText (place : Nat) : String :=
  "String contained internal null bytes: nul byte found in provided data at position: " ++
    toString place

/-- A script with what it is given, about to run. -/
def launch (limits : Limits) (source : String) (phase : Phase) (response : Option Response) :
    Except String (Launch (Store × Step.Bodies) Value) :=
  if limits.memory != 0 && limits.memory < Limits.leastMemory then
    .error "Allocation failed while creating object"
  else
    let machine := machine beginning.natives stepLimit
    let store := { beginning.store with memoryLimit := limits.memory }
    let store :=
      match phase, response with
      | .test, some r => Host.showResponse r store
      | _, _ => store
    match nullPlace? source with
    | some place =>
      .ok
        { body := .ended (.threw .undefined) (store, #[])
          describe := fun _ state => .ended (.returned (some (nullText place))) state
          describeInterrupt := fun state => .ended (.returned none) state }
    | none =>
      .ok
        { body := (steps machine source store).behaviour stepLimit #[] []
          describe := fun thrown (store, bodies) =>
            (description machine (pure thrown) store).behaviour stepLimit bodies []
          describeInterrupt := fun (store, bodies) =>
            (description machine interruptError store).behaviour stepLimit bodies [] }

/-- The engine with the given limits. -/
def engine (limits : Limits) : Engine := fun source phase response view =>
  Launch.report limits.deadline limits.schedule view (launch limits source phase response)

end CollectionRunner.Script
