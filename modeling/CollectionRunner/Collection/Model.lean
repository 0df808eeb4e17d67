import CollectionRunner.Text.Lines

namespace CollectionRunner

/-- A variable of some scope. Being switched off matters only in an environment. -/
structure Variable where
  key : String := ""
  value : String := ""
  enabled : Bool := true
  kind : Option String := none
  deriving DecidableEq, Repr

structure Header where
  key : String := ""
  value : String := ""
  disabled : Bool := false
  deriving DecidableEq, Repr

structure QueryParameter where
  key : String := ""
  value : String := ""
  disabled : Bool := false
  deriving DecidableEq, Repr

/-- The address of a request: a text, or the parts that make one. -/
structure Address where
  raw : String := ""
  host : List String := []
  path : List String := []
  query : List QueryParameter := []
  deriving DecidableEq, Repr

structure Body where
  mode : String := ""
  raw : Option String := none
  deriving DecidableEq, Repr

/-- The text that is sent: that of a raw body, unless it is empty. -/
def Body.payload? (b : Body) : Option String :=
  if b.mode = "raw" then b.raw.filter (· ≠ "") else none

structure Request where
  method : String := ""
  headers : List Header := []
  body : Option Body := none
  address : Address := {}
  deriving DecidableEq, Repr

/-- When a script runs: before its request is made, or on the response. -/
inductive Phase where
  | prerequest
  | test
  deriving DecidableEq, Repr

def Phase.tag : Phase → String
  | .prerequest => "prerequest"
  | .test => "test"

def Phase.ofTag? (tag : String) : Option Phase :=
  if tag = "prerequest" then some .prerequest else if tag = "test" then some .test else none

structure Script where
  lines : List String := []
  kind : Option String := none
  deriving DecidableEq, Repr

def Script.source (s : Script) : String := String.intercalate "\n" s.lines

/-- A script and what it listens to. -/
structure Event where
  listen : String := ""
  script : Script := {}
  deriving DecidableEq, Repr

def Event.phase? (e : Event) : Option Phase := Phase.ofTag? e.listen

/-- The event that runs a script text in a phase. -/
def Event.ofSource (phase : Phase) (source : String) : Event :=
  ⟨phase.tag, ⟨Text.lines source, some "text/javascript"⟩⟩

structure Info where
  name : String := ""
  description : Option String := none
  schema : Option String := none
  deriving DecidableEq, Repr

/-- A folder if it has a list of items, else a request if it has one. -/
structure Item where
  name : String := ""
  items : Option (List Item) := none
  request : Option Request := none
  vars : List Variable := []
  events : List Event := []
  deriving Repr

namespace Item

def isFolder (i : Item) : Bool := i.items.isSome

def children (i : Item) : List Item := i.items.getD []

def isRequest (i : Item) : Bool := ! i.isFolder && i.request.isSome

end Item

structure Collection where
  info : Info := {}
  items : List Item := []
  vars : List Variable := []
  events : List Event := []
  deriving Repr

/-- A named list of variables beside a collection. -/
structure Environment where
  id : Option String := none
  name : String := ""
  values : List Variable := []
  deriving DecidableEq, Repr

end CollectionRunner
