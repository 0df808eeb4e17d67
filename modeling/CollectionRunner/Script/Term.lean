import CollectionRunner.Script.Key

namespace CollectionRunner.Script

inductive UnaryOp where
  | plus | minus | not | bitNot | typeOf | discard
  deriving DecidableEq, Repr

inductive BinaryOp where
  | add | sub | mul | div | rem | pow
  | shiftLeft | shiftRight | shiftRightUnsigned
  | bitAnd | bitOr | bitXor
  | less | greater | lessEq | greaterEq
  | equal | notEqual | same | notSame
  | instanceOf | isIn
  deriving DecidableEq, Repr

inductive LogicalOp where
  | and | or | coalesce
  deriving DecidableEq, Repr

/-- What a function is made for. -/
inductive FunctionRole where
  | plain
  | arrow
  | method
  | getter
  | setter
  | constructor
  | derivedConstructor
  /-- Runs the initial values of a class's fields, or a static block. -/
  | initializer
  deriving DecidableEq, Repr

/-- A variable of a block: its name, and whether it keeps its first value. -/
structure Declared where
  name : String
  constant : Bool
  deriving DecidableEq, Repr

/-- A place in the text of a script, as messages tell it. -/
structure Position where
  line : Nat := 1
  column : Nat := 1
  deriving DecidableEq, Repr, Inhabited

/-- What is known of a function besides its parts. -/
structure FunctionInfo where
  name : String
  /-- The name that a function expression has within itself. -/
  selfName : Option String := none
  role : FunctionRole := .plain
  isAsync : Bool := false
  isGenerator : Bool := false
  /-- The number of parameters before the first one with a fallback. -/
  length : Nat := 0
  /-- The names that its parameters bind. -/
  parameters : List String := []
  /-- The names that its statements declare for all of it. -/
  vars : List String := []
  /-- Its parameters hold expressions, so that its statements have variables of their own. -/
  hasInitials : Bool := false
  isStrict : Bool := true
  source : String := ""
  /-- The text that it is part of, by its name, and where it begins. -/
  file : String := ""
  start : Position := {}
  deriving DecidableEq, Repr, Inhabited

/-- Whether the function can be used with `new`. -/
def FunctionInfo.constructs (i : FunctionInfo) : Bool :=
  match i.role with
  | .plain => ! i.isAsync && ! i.isGenerator
  | .constructor | .derivedConstructor => true
  | _ => false

mutual

inductive Expr where
  | null
  | bool (b : Bool)
  | number (x : Float)
  | big (n : Int)
  | text (u : Units)
  | this
  | name (s : String)
  | newTarget
  | template (head : Units) (parts : List (Expr × Units))
  /-- A template that is handed to a function. Its texts are made once, and kept by its number. -/
  | tagged (tag : Expr) (site : Nat) (cooked : List (Option Units)) (raw : List Units)
    (parts : List Expr)
  | regexp (source flags : Units)
  | array (items : List Item)
  | object (members : List Member)
  | function (f : Function)
  | classOf (c : Class)
  | unary (op : UnaryOp) (e : Expr)
  | typeOfName (s : String)
  | delete (target : Expr)
  | update (up first : Bool) (target : Expr)
  | binary (op : BinaryOp) (a b : Expr)
  | hiddenIn (s : String) (e : Expr)
  | logical (op : LogicalOp) (a b : Expr)
  | conditional (c t e : Expr)
  | assign (target : Pattern) (value : Expr)
  | assignOp (op : BinaryOp) (target value : Expr)
  | assignLogical (op : LogicalOp) (target value : Expr)
  | sequence (a b : Expr)
  | member (o : Expr) (key : Key)
  | element (o k : Expr)
  | hiddenMember (o : Expr) (s : String)
  | superMember (key : Key)
  | superElement (k : Expr)
  | call (callee : Expr) (args : List Item) (at' : Position)
  | superCall (args : List Item) (at' : Position)
  | construct (callee : Expr) (args : List Item) (at' : Position)
  | importCall (e : Expr)
  /-- A chain of accesses, all of it undefined once an optional link finds nothing. -/
  | chain (e : Expr)
  /-- The start of an optional link. -/
  | optional (e : Expr)
  | await (e : Expr)
  | yield (e : Option Expr)
  | yieldAll (e : Expr)

/-- An element of a list of values. -/
inductive Item where
  | hole
  | one (e : Expr)
  | spread (e : Expr)

inductive PropertyName where
  | key (k : Key)
  | computed (e : Expr)
  | hidden (s : String)

/-- A member of an object literal. -/
inductive Member where
  | property (name : PropertyName) (value : Expr)
  | prototype (value : Expr)
  | method (name : PropertyName) (f : Function)
  | spread (e : Expr)

/-- What values are taken apart into. -/
inductive Pattern where
  | name (s : String)
  | target (e : Expr)
  | array (items : List PatternItem) (rest : Option Pattern)
  | object (properties : List PatternProperty) (rest : Option Pattern)

inductive PatternItem where
  | hole
  | item (p : Pattern) (fallback : Option Expr)

inductive PatternProperty where
  | mk (name : PropertyName) (p : Pattern) (fallback : Option Expr)

inductive Function where
  | mk (info : FunctionInfo) (parameters : List PatternItem) (rest : Option Pattern) (body : Block)

inductive Class where
  | mk (binding : Option String) (name : String) (heritage : Option Expr) (maker : Option Function)
    (members : List ClassMember) (source : String) (at' : String × Position)

inductive ClassMember where
  | method (isStatic : Bool) (name : PropertyName) (f : Function)
  | field (isStatic : Bool) (name : PropertyName) (init : Option Function)
  | staticBlock (f : Function)

/-- Statements with the variables and functions that they declare for themselves. -/
inductive Block where
  | mk (declared : List Declared) (functions : List Function) (body : List Statement)

inductive Statement where
  | empty
  | expr (e : Expr) (at' : Position)
  /-- An expression whose value is that of the text it stands in. -/
  | result (e : Expr) (at' : Position)
  /-- A statement that takes away the value of the text before it does anything. -/
  | clearing (s : Statement)
  /-- Statements that leave the value of the text as it is, if they come to their end. -/
  | sparing (b : Block)
  | vars (list : List (Pattern × Option Expr))
  | lexical (list : List (Pattern × Option Expr))
  | block (b : Block)
  | classDeclaration (c : Class)
  | ifElse (c : Expr) (t : Statement) (e : Option Statement)
  | while (c : Expr) (body : Statement)
  | doWhile (body : Statement) (c : Expr)
  | for (declared : List Declared) (init : Option Statement) (test update : Option Expr)
    (body : Statement)
  | forIn (declared : List Declared) (isLexical : Bool) (target : Pattern) (subject : Expr)
    (body : Statement)
  | forOf (declared : List Declared) (isLexical isAwait : Bool) (target : Pattern) (subject : Expr)
    (body : Statement)
  | return (e : Option Expr)
  | throw (e : Expr) (at' : Position)
  | break (label : Option String)
  | continue (label : Option String)
  | switch (e : Expr) (declared : List Declared) (functions : List Function)
    (cases : List (Option Expr × List Statement))
  | try (body : Block) (handler : Option (Option Pattern × List Declared × Block))
    (finalizer : Option Block)
  | labelled (label : String) (s : Statement)
  /-- A statement in which the properties of an object come before all names around it. -/
  | within (subject : Expr) (body : Statement)
  /-- The place of a block's function that goes to a variable around the block as well. -/
  | outward (f : Function)

end

instance : Inhabited Expr := ⟨.null⟩

instance : Inhabited Statement := ⟨.empty⟩

instance : Inhabited Block := ⟨.mk [] [] []⟩

instance : Inhabited Pattern := ⟨.name ""⟩

instance : Inhabited Function := ⟨.mk default [] none default⟩

instance : Inhabited Class := ⟨.mk none "" none none [] "" ("", {})⟩

namespace Function

def info : Function → FunctionInfo
  | .mk i _ _ _ => i

def named (name : String) : Function → Function
  | .mk i ps rest body => .mk { i with name } ps rest body

end Function

/-- An expression that makes a function or a class without a name, given one. -/
def Expr.named (name : String) : Expr → Expr
  | .function f => .function (if f.info.name.isEmpty then f.named name else f)
  | .classOf (.mk binding own heritage maker members source at') =>
    .classOf (.mk binding (if own.isEmpty then name else own) heritage maker members source at')
  | e => e

/-- The name that a function gets from the property it is kept in. -/
def PropertyName.functionName : PropertyName → String
  | .key k => k.shown
  | .computed _ => ""
  | .hidden s => "#" ++ s

/-- The expression, which takes its name from the variable it goes to. -/
def Pattern.nameFor (p : Pattern) (e : Expr) : Expr :=
  match p with
  | .name s => e.named s
  | _ => e

/-- Whether an expression makes a function or a class without a name. -/
def Expr.isAnonymous : Expr → Bool
  | .function f => f.info.name.isEmpty
  | .classOf (.mk _ own _ _ _ _ _) => own.isEmpty
  | _ => false

end CollectionRunner.Script
