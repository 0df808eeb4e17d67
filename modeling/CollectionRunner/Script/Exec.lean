import CollectionRunner.Script.Value

namespace CollectionRunner.Script

/-- Why a computation does not go on to what comes next. -/
inductive Fault where
  | thrown (v : Value)
  | interrupted
  | returned (v : Value)
  | broke (label : Option String)
  | continued (label : Option String)
  /-- An optional link of a chain has found nothing. -/
  | cut
  deriving Inhabited

/-- How a generator is entered again. -/
inductive Signal where
  | next (v : Value)
  | throw (v : Value)
  | return (v : Value)
  deriving Inhabited

/-- What comes back from a generator. -/
inductive Yielded where
  | value (v : Value)
  | finished (v : Value)
  | failed (f : Fault)
  deriving Inhabited

/-- What the interpreter does next: what a script's behaviour may be, and besides that the entering
and leaving of generators. -/
inductive Step where
  | ended (ending : Ending Value) (store : Store)
  | poll (next : Bool → Step)
  | get (scope : VariableScope) (key : String) (next : Option String → Step)
  | set (write : Write) (next : Step)
  | log (level : Level) (line : String) (next : Step)
  | test (store : Store) (name : Option String) (callback : Option Step)
    (describe : Value → Store → Step) (next : Ending Value → Store → Step)
  /-- Shows a value in the first of its ways that gives a text. -/
  | display (text : Option String) (isJson : Bool) (json plain : Store → Step) (store : Store)
    (next : String → Store → Step)
  /-- Describes an exception by its message and its name. -/
  | describe (message name : Store → Step) (store : Store) (next : String → Store → Step)
  /-- Keeps the body of a generator and gives it a number. -/
  | create (body : Signal → Store → Step) (next : Nat → Step)
  | resume (id : Nat) (signal : Signal) (store : Store) (next : Yielded → Store → Step)
  /-- Leaves the generator entered last with a value. -/
  | yield (v : Value) (store : Store) (next : Signal → Store → Step)
  /-- The generator entered last ends. -/
  | finish (y : Yielded) (store : Store)

namespace Step

/-- The bodies of generators by their numbers. -/
abbrev Bodies := Array (Signal → Store → Step)

/-- The generators that have been entered, the last one first: the number of each and what comes
after it. -/
abbrev Entered := List (Nat × (Yielded → Store → Step))

abbrev Full := Behaviour (Store × Bodies) Value

/-- What is left of a script that has to end: nothing but its state. -/
def cut (state : Store × Bodies) : Full → Full
  | .ended _ state => .ended .interrupted state
  | _ => .ended .interrupted state

/-- The behaviour of what the interpreter does, given how the bodies of generators behave. After an
interrupt no script code goes on. -/
def behaviourWith (jump : Step → Bodies → Entered → Full) : Step → Bodies → Entered → Full
  | .ended ending store, bodies, _ => .ended ending (store, bodies)
  | .poll next, bodies, entered => .poll fun told =>
    if told then cut ({}, bodies) (behaviourWith jump (next true) bodies entered)
    else behaviourWith jump (next false) bodies entered
  | .get scope key next, bodies, entered =>
    .get scope key fun found => behaviourWith jump (next found) bodies entered
  | .set w next, bodies, entered => .set w (behaviourWith jump next bodies entered)
  | .log level line next, bodies, entered =>
    .log level line (behaviourWith jump next bodies entered)
  | .test store name callback described next, bodies, entered =>
    .test (store, bodies) name
      (match callback with
        | none => none
        | some body => some (behaviourWith jump body bodies []))
      (fun thrown (store, bodies) => behaviourWith jump (described thrown store) bodies [])
      fun ending (store, bodies) =>
        match ending with
        | .interrupted => cut (store, bodies) (behaviourWith jump (next .interrupted store) bodies entered)
        | ending => behaviourWith jump (next ending store) bodies entered
  | .display text isJson json plain store next, bodies, entered =>
    Behaviour.display
      ⟨text,
        if isJson then some fun (store, bodies) => behaviourWith jump (json store) bodies []
        else none,
        fun (store, bodies) => behaviourWith jump (plain store) bodies []⟩
      (store, bodies) fun text (store, bodies) => behaviourWith jump (next text store) bodies entered
  | .describe message name store next, bodies, entered =>
    Behaviour.describeException
      (fun (store, bodies) => behaviourWith jump (message store) bodies [])
      (fun (store, bodies) => behaviourWith jump (name store) bodies [])
      (store, bodies) fun text (store, bodies) => behaviourWith jump (next text store) bodies entered
  | .create body next, bodies, entered =>
    let id := bodies.size
    behaviourWith jump (next id) (bodies.push body) entered
  | .resume id signal store next, bodies, entered =>
    match bodies[id]? with
    | some body => jump (body signal store) bodies ((id, next) :: entered)
    | none => behaviourWith jump (next (.finished .undefined) store) bodies entered
  | .yield v store next, bodies, entered =>
    match entered with
    | (id, after) :: rest => jump (after (.value v) store) (bodies.setIfInBounds id next) rest
    | [] => .ended .interrupted (store, bodies)
  | .finish y store, bodies, entered =>
    match entered with
    | (_, after) :: rest => jump (after y store) bodies rest
    | [] => .ended .interrupted (store, bodies)

/-- The behaviour, in which generators are entered and left `n` times at most. -/
def behaviour : Nat → Step → Bodies → Entered → Full
  | 0, s, bodies, entered =>
    behaviourWith (fun _ bodies _ => .ended .interrupted ({}, bodies)) s bodies entered
  | n + 1, s, bodies, entered =>
    behaviourWith (fun s bodies entered => behaviour n s bodies entered) s bodies entered

end Step

/-- What a value is given to by a pattern. -/
inductive Aim where
  /-- Variables that exist, and properties. -/
  | assign
  /-- Variables of a scope that are declared here. -/
  | declare
  deriving DecidableEq, Inhabited

/-- The parts of the interpreter that others lead back to. -/
inductive Task where
  | eval (scope : Nat) (e : Expr)
  | exec (scope : Nat) (s : Statement)
  | bind (scope : Nat) (aim : Aim) (p : Pattern) (v : Value)
  | call (f this : Value) (args : List Value)
  | construct (f : Value) (args : List Value) (newTarget : Value)

/-- An interpreter: what it makes of a task, given what comes after it when it succeeds and when it
fails, and the store. -/
structure Machine where
  run : Task → (Value → Store → Step) → (Fault → Store → Step) → Store → Step

/-- A computation on a machine, from what comes after it when it succeeds and when it fails, and the
store. Since it is given what comes after it, calls of script functions use no more depth than the
host gives, and a generator can be left and entered again. -/
def Exec (α : Type) : Type :=
  Machine → (α → Store → Step) → (Fault → Store → Step) → Store → Step

namespace Exec

variable {α β : Type}

@[always_inline, inline]
protected def pure (a : α) : Exec α := fun _ k _ s => k a s

@[always_inline, inline]
protected def bind (x : Exec α) (f : α → Exec β) : Exec β :=
  fun m k h s => x m (fun a s => f a m k h s) h s

instance : Monad Exec where
  pure := Exec.pure
  bind := Exec.bind

instance : Inhabited (Exec α) := ⟨fun _ _ h s => h .interrupted s⟩

@[inline]
def fail (f : Fault) : Exec α := fun _ _ h s => h f s

def throwValue (v : Value) : Exec α := fun _ _ h s => h (.thrown v) s

/-- Goes on after a failure. -/
@[inline]
def recover (x : Exec α) (f : Fault → Exec α) : Exec α :=
  fun m k h s => x m k (fun e s => f e m k h s) s

/-- Goes on after something that was thrown; no script can go on after an interrupt. -/
@[inline]
def catchThrown (x : Exec α) (f : Value → Exec α) : Exec α :=
  recover x fun
    | .thrown v => f v
    | e => fail e

/-- Changes the store in the end, however the computation ends. -/
@[inline]
def leaving (x : Exec α) (f : Store → Store) : Exec α :=
  fun m k h s => x m (fun a s => k a (f s)) (fun e s => h e (f s)) s

/-- Does something else in the end, however the computation ends; after an interrupt nothing. -/
@[inline]
def ensuring (x : Exec α) (after : Exec Unit) : Exec α := do
  let a ← recover x fun
    | .interrupted => fail .interrupted
    | e => do
      after
      fail e
  after
  return a

@[inline]
def task (t : Task) : Exec Value := fun m k h s => m.run t k h s

def eval (scope : Nat) (e : Expr) : Exec Value := task (.eval scope e)

def exec (scope : Nat) (s : Statement) : Exec Unit := do
  let _ ← task (.exec scope s)

def bindPattern (scope : Nat) (aim : Aim) (p : Pattern) (v : Value) : Exec Unit := do
  let _ ← task (.bind scope aim p v)

def call (f this : Value) (args : List Value) : Exec Value := task (.call f this args)

def construct (f : Value) (args : List Value) (newTarget : Value) : Exec Value :=
  task (.construct f args newTarget)

/-- How many times a script goes on without asking again once it was told to end. -/
def respite : Nat := 9999

/-- Asks whether the script has to end. -/
def poll : Exec Unit := fun _ k h s =>
  match s.patience with
  | n + 1 => k () { s with patience := n }
  | 0 =>
    .poll fun told =>
      if told then h .interrupted { s with interruptedIn := s.calls, patience := respite }
      else k () s

/-- Looks something up in the store. -/
@[inline]
def read (f : Store → α) : Exec α := fun _ k _ s => k (f s) s

@[inline]
def modify (f : Store → Store) : Exec Unit := fun _ k _ s => k () (f s)

@[inline]
def modifyGet (f : Store → α × Store) : Exec α := fun _ k _ s =>
  let (a, s) := f s
  k a s

def getVariable (scope : VariableScope) (key : String) : Exec (Option String) :=
  fun _ k _ s => .get scope key fun found => k found s

def setVariable (w : Write) : Exec Unit := fun _ k _ s => .set w (k () s)

def log (level : Level) (line : String) : Exec Unit := fun _ k _ s => .log level line (k () s)

def endingOf : Fault → Ending Value
  | .thrown v => .threw v
  | _ => .interrupted

/-- What a computation does by itself, up to its end. -/
def alone (m : Machine) (x : Exec (Option String)) (s : Store) : Step :=
  x m (fun text s => .ended (.returned text) s) (fun f s => .ended (endingOf f) s) s

/-- Shows a value: as the text that it is, as JSON if it is that kind of object, or as the text that
it converts to. -/
def display (text : Option String) (isJson : Bool) (json plain : Exec (Option String)) :
    Exec String :=
  fun m k _ s => .display text isJson (alone m json) (alone m plain) s k

def describeException (message name : Exec (Option String)) : Exec String :=
  fun m k _ s => .describe (alone m message) (alone m name) s k

/-- A call of `pm.test`. -/
def test (name : Option String) (callback : Option (Exec Unit)) (describe : Value → Exec String) :
    Exec Unit := fun m k h s =>
  .test s name
    (match callback with
      | none => none
      | some x => some (alone m (do x; return none) s))
    (fun thrown s => alone m (do return some (← describe thrown)) s)
    fun ending s =>
      match ending with
      | .returned _ => k () s
      | .threw v => h (.thrown v) s
      | .interrupted => h .interrupted s

/-- Keeps a computation for later as the body of a generator. -/
def createGenerator (body : Signal → Exec Value) : Exec Nat := fun m k _ s =>
  .create
    (fun signal s =>
      body signal m (fun v s => .finish (.finished v) s) (fun f s => .finish (.failed f) s) s)
    fun id => k id s

def resumeGenerator (id : Nat) (signal : Signal) : Exec Yielded := fun _ k _ s =>
  .resume id signal s k

def yieldValue (v : Value) : Exec Signal := fun _ k _ s => .yield v s k

/-- Asks now and then, in a row of computations of which `n` are left. -/
@[inline]
def pollAt (n : Nat) : Exec Unit := if n % 128 = 127 then poll else return ()

/-- More rounds than any loop takes before its script has to end. -/
def rounds : Nat := 1000000000

/-- Repeats a computation that hands on a value until it gives a result. -/
def iterateFor (step : β → Exec (Except β α)) : Nat → β → Exec α
  | 0, _ => fail .interrupted
  | n + 1, b => do
    pollAt n
    match ← step b with
    | .ok a => return a
    | .error b => iterateFor step n b

def iterate (b : β) (step : β → Exec (Except β α)) : Exec α := iterateFor step rounds b

/-- Does something for each number of a row, `i` the first of them. -/
def forNumbers (step : Nat → Exec Unit) : (i count : Nat) → Exec Unit
  | _, 0 => return ()
  | i, n + 1 => do
    pollAt n
    step i
    forNumbers step (i + 1) n

/-- Runs one computation for each element of a list, with the number of those before. -/
def forEachFrom (step : β → Exec Unit) : Nat → List β → Exec Unit
  | _, [] => return ()
  | i, b :: rest => do
    pollAt i
    step b
    forEachFrom step (i + 1) rest

/-- Runs one computation for each element of a list. -/
def forEach (step : β → Exec Unit) (bs : List β) : Exec Unit := forEachFrom step 0 bs

/-- The results of one computation for each element of a list, with the number of those before. -/
def mapEachFrom (step : β → Exec α) : Nat → List β → List α → Exec (List α)
  | _, [], done => return done.reverse
  | i, b :: rest, done => do
    pollAt i
    let a ← step b
    mapEachFrom step (i + 1) rest (a :: done)

/-- The results of one computation for each element of a list, after those in reverse. -/
def mapEach (step : β → Exec α) (bs : List β) (done : List α) : Exec (List α) :=
  mapEachFrom step 0 bs done

end Exec

end CollectionRunner.Script
