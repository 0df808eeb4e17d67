import CollectionRunner.Collection.Model

namespace CollectionRunner

/-- Where a script keeps a variable. -/
inductive VariableScope where
  | collection
  | environment
  deriving DecidableEq, Repr

namespace Variables

/-- The value of the first enabled entry of a key. -/
def get? (list : List Variable) (key : String) : Option String :=
  (list.find? fun v => v.enabled && v.key == key).map (·.value)

/-- Changes the first entry of a key and enables it, or adds an entry at the end. -/
def set (key value : String) : List Variable → List Variable
  | [] => [{ key, value }]
  | v :: rest =>
    if v.key = key then { v with value, enabled := true } :: rest else v :: set key value rest

end Variables

/-- The lists of variables that scripts work on. -/
structure VariableLists where
  collection : List Variable := []
  environment : List Variable := []
  deriving DecidableEq, Repr

/-- One variable that a script has set. -/
structure Write where
  scope : VariableScope
  key : String
  value : String
  deriving DecidableEq, Repr

/-- What a script can read of the lists: the value of each key in each scope. -/
structure View where
  get? : VariableScope → String → Option String

namespace VariableLists

def ofScope (l : VariableLists) : VariableScope → List Variable
  | .collection => l.collection
  | .environment => l.environment

def get? (l : VariableLists) (scope : VariableScope) (key : String) : Option String :=
  Variables.get? (l.ofScope scope) key

def set (l : VariableLists) (w : Write) : VariableLists :=
  match w.scope with
  | .collection => { l with collection := Variables.set w.key w.value l.collection }
  | .environment => { l with environment := Variables.set w.key w.value l.environment }

/-- The lists after variables were set one after another. -/
def setAll (l : VariableLists) (ws : List Write) : VariableLists := ws.foldl set l

def view (l : VariableLists) : View := ⟨l.get?⟩

/-- The environment's value of a key, or else the collection's. -/
def lookup? (l : VariableLists) (key : String) : Option String :=
  (l.get? .environment key).orElse fun _ => l.get? .collection key

end VariableLists

namespace View

/-- What is read after one more variable was set. -/
def after (v : View) (w : Write) : View :=
  ⟨fun scope key => if scope = w.scope ∧ key = w.key then some w.value else v.get? scope key⟩

def lookup? (v : View) (key : String) : Option String :=
  (v.get? .environment key).orElse fun _ => v.get? .collection key

end View

end CollectionRunner
