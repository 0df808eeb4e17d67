import CollectionRunner.CommandLine.Command
import CollectionRunner.CommandLine.Complaint
import CollectionRunner.Text.Similarity

namespace CollectionRunner.CommandLine

/-- Why a command line leads to nothing that is done. -/
inductive Stop where
  /-- A text that was asked for. -/
  | answer (text : String)
  /-- The help for someone who gave no arguments. -/
  | guidance (text : String)
  | complaint (c : Complaint)
  deriving Repr

inductive Argument where
  | flag (f : Flag)
  | operand (o : Operand)
  deriving DecidableEq, Repr

namespace Argument

def display : Argument → String
  | flag f => f.display
  | operand o => o.display

/-- The name that an argument is known by. -/
def key : Argument → String
  | flag f => f.long
  | operand o => o.placeholder

end Argument

/-- An argument that was given, with its value, or how often it was given. -/
structure Given where
  argument : Argument
  value : Option String := none
  count : Nat := 1
  deriving DecidableEq, Repr

/-- The digits of a number below `limit`, or the reason why they make none. -/
def readDigits (limit acc : Nat) : List Char → Except String Nat
  | [] => .ok acc
  | c :: rest =>
    if ! c.isDigit then .error "invalid digit found in string"
    else
      let n := acc * 10 + (c.toNat - 48)
      if limit ≤ n then .error "number too large to fit in target type"
      else readDigits limit n rest

/-- A number of 64 bits, perhaps with a plus sign, or the reason why a text is none. -/
def readCount (s : String) : Except String Nat :=
  match s.toList with
  | [] => .error "cannot parse integer from empty string"
  | ['+'] => .error "invalid digit found in string"
  | '+' :: digits => readDigits (Nat.pow 2 64) 0 digits
  | digits => readDigits (Nat.pow 2 64) 0 digits

/-- What is wrong with a value of an argument, if anything is. -/
def ValueKind.problem? (argument value : String) : ValueKind → Option Problem
  | .text => none
  | .path => if value = "" then some (.noValue argument) else none
  | .count =>
    match readCount value with
    | .ok _ => none
    | .error reason => some (.badValue value argument reason)

/-- What was read so far: the arguments given, one whose value is still to be looked at (or to be
read, when it has none), how many operands there were, and whether only operands may follow. -/
structure Reading where
  given : List Given := []
  pending : Option (Argument × Option String) := none
  operandCount : Nat := 0
  onlyOperands : Bool := false

namespace Reading

def find? (s : Reading) (key : String) : Option Given := s.given.find? (·.argument.key == key)

def add (s : Reading) (g : Given) : Reading := { s with given := s.given ++ [g] }

/-- Whether the next argument is the value of a flag, unless it looks like a flag itself. -/
def awaitsValue (s : Reading) : Bool :=
  match s.pending with
  | some (.flag _, none) => ! s.onlyOperands
  | _ => false

def givenFlags (s : Reading) : List Flag :=
  s.given.filterMap fun g => match g.argument with
    | .flag f => some f
    | .operand _ => none

/-- Whether an argument that belongs to the command alone was given. -/
def isOwn (l : Level) (s : Reading) : Bool :=
  s.given.any fun g => match g.argument with
    | .flag f => l.command.flags.contains f
    | .operand _ => true

/-- The usage that fits what was given and some more flags. -/
def usage (l : Level) (s : Reading) (more : List Flag) : String :=
  if s.given.isEmpty && more.isEmpty then l.usage
  else l.usageWith (s.givenFlags ++ more) (s.isOwn l)

/-- Takes an argument as given once. -/
def addOnce (l : Level) (s : Reading) (g : Given) : Except Stop Reading :=
  if (s.find? g.argument.key).isSome then
    .error (.complaint ⟨.repeated g.argument.display, none, some l.usage⟩)
  else .ok (s.add g)

/-- Takes an argument with a value as given, if the value is right. -/
def addValue (l : Level) (s : Reading) (a : Argument) (kind : ValueKind) (value : String) :
    Except Stop Reading := do
  let s ← s.addOnce l { argument := a, value := some value }
  match kind.problem? a.display value with
  | some problem => throw (.complaint { problem })
  | none => return s

/-- Takes an argument as given; the value of a flag that wants one may be missing. -/
def accept (l : Level) (s : Reading) (a : Argument) (value : Option String) :
    Except Stop Reading :=
  match a with
  | .operand o => s.addValue l a o.kind (value.getD "")
  | .flag f =>
    match f.effect with
    | .help => .error (.answer l.help)
    | .version => .error (.answer l.versionText)
    | .switch => s.addOnce l { argument := a }
    | .counter =>
      let count := ((s.find? f.long).map (·.count)).getD 0 + 1
      .ok { s with given := s.given.filter (·.argument.key != f.long) ++ [⟨a, none, count⟩] }
    | .value _ kind =>
      match value with
      | some v => s.addValue l a kind v
      | none => .error (.complaint { problem := .noValue a.display })

/-- Looks at the value that was read last. -/
def resolve (l : Level) (s : Reading) : Except Stop Reading :=
  match s.pending with
  | none => .ok s
  | some (a, value) => { s with pending := none }.accept l a value

/-- The state when there is something worse than the value that was read last. -/
def settled (s : Reading) : Reading :=
  match s.pending with
  | some (a, some value) => { s with pending := none }.add { argument := a, value := some value }
  | _ => { s with pending := none }

/-- Reads a flag with what is attached to it as its value. -/
def takeFlag (l : Level) (s : Reading) (f : Flag) (value : Option String) :
    Except Stop Reading := do
  let s ← s.resolve l
  match f.effect, value with
  | .value .., none => return { s with pending := some (.flag f, none) }
  | _, _ => s.accept l (.flag f) value

/-- A command below that is named in the arguments that follow, and a flag of it that is much like
the given one. -/
def flagBelow? (l : Level) (name : String) (rest : List String) : Option (String × String) :=
  rest.findSome? fun word => do
    let c ← l.command? word
    let long ← (Text.similarWords name ((l.below c).flags.map (·.long))).getLast?
    return (c.name, long)

/-- What is said about a long name that no flag has. -/
def unknownLong (l : Level) (s : Reading) (name : String) (rest : List String) : Complaint :=
  let argument := "--" ++ name
  let s := s.settled
  let near := (Text.similarWords name (l.flags.map (·.long))).getLast?.bind l.flagOfLong?
  match near, flagBelow? l name rest with
  | some f, _ =>
    let s := if (s.find? f.long).isSome then s else s.add { argument := .flag f }
    ⟨.unexpected argument, some (.similarFlag f.long), some (s.usage l [])⟩
  | none, some (command, long) =>
    ⟨.unexpected argument, some (.flagOf command long), some (s.usage l [])⟩
  | none, none =>
    let tip := if l.command.operands.isEmpty then none else some (.asValue argument)
    ⟨.unexpected argument, tip, some (s.usage l [])⟩

def takeLong (l : Level) (s : Reading) (name : String) (value : Option String)
    (rest : List String) : Except Stop Reading :=
  match l.flagOfLong? name with
  | none => .error (.complaint (unknownLong l s name rest))
  | some f =>
    match f.effect, value with
    | .value .., _ | _, none => s.takeFlag l f value
    | _, some v => .error (.complaint ⟨.surplusValue v f.display, none, some (s.usage l [f])⟩)

/-- Reads flags written one after another. What follows one that takes a value is its value. -/
def takeShort (l : Level) (s : Reading) : List Char → Except Stop Reading
  | [] => .ok s
  | c :: rest =>
    match l.flagOfShort? c with
    | none =>
      let argument := "-" ++ String.singleton c
      let tip := if l.command.operands.isEmpty then none else some (.asValue argument)
      .error (.complaint ⟨.unexpected argument, tip, some l.usage⟩)
    | some f =>
      match f.effect, rest with
      | .value .., [] => s.takeFlag l f none
      | .value .., '=' :: value => s.takeFlag l f (some (String.ofList value))
      | .value .., value => s.takeFlag l f (some (String.ofList value))
      | _, _ => do (← s.takeFlag l f none).takeShort l rest

/-- What is said about an operand too many. -/
def surplus (l : Level) (s : Reading) (word : String) : Complaint :=
  let near := Text.similarWords word (l.command.commands.map (·.name))
  let usage := some l.usage
  if s.onlyOperands && (l.command? word).isSome then
    ⟨.unexpected word, some (.withoutDashes word), usage⟩
  else if ! near.isEmpty then ⟨.unknownCommand word, some (.similarCommands near), usage⟩
  else if ! l.command.commands.isEmpty && l.command.operands.isEmpty then
    ⟨.unknownCommand word, none, usage⟩
  else ⟨.unexpected word, none, usage⟩

def takeOperand (l : Level) (s : Reading) (word : String) : Except Stop Reading :=
  match l.command.operands[s.operandCount]? with
  | none => .error (.complaint (surplus l s word))
  | some o => do
    let s ← s.resolve l
    return { s with pending := some (.operand o, some word), operandCount := s.operandCount + 1 }

/-- Reads an argument that is no command's name, given those that follow it. -/
def take (l : Level) (s : Reading) (word : String) (rest : List String) : Except Stop Reading :=
  if s.onlyOperands then s.takeOperand l word
  else
    match word.toList with
    | ['-', '-'] => .ok { s with onlyOperands := true }
    | '-' :: '-' :: long =>
      let value := (long.dropWhile (· ≠ '=')).drop 1
      s.takeLong l (String.ofList (long.takeWhile (· ≠ '=')))
        (if long.contains '=' then some (String.ofList value) else none) rest
    | '-' :: c :: short => s.takeShort l (c :: short)
    | _ =>
      match s.pending, s.awaitsValue with
      | some (a, _), true => .ok { s with pending := some (a, some word) }
      | _, _ => s.takeOperand l word

/-- The arguments given, when nothing is missing. -/
def finish (l : Level) (s : Reading) : Except Stop (List Given) := do
  let s ← s.resolve l
  let missing := l.command.operands.filter fun o => (s.find? o.placeholder).isNone
  if ! l.command.commands.isEmpty then
    if s.given.isEmpty then throw (.guidance l.help)
    else
      let names := l.command.commands.map (·.name)
      throw (.complaint ⟨.noCommand l.path names, none, some l.usage⟩)
  else if ! missing.isEmpty then
    let usage := l.usageWith s.givenFlags false
    throw (.complaint ⟨.missing (missing.map (·.display)), none, some usage⟩)
  else return s.given

/-- Reads the arguments of a command: its name and those given to it, for each command on the way
down to the one that is meant. -/
def read (l : Level) (s : Reading) : List String → Except Stop (List (String × List Given))
  | [] => do return [(l.command.name, ← s.finish l)]
  | word :: rest =>
    match if s.onlyOperands || s.awaitsValue then none else l.command? word with
    | some c => do return (l.command.name, s.given) :: (← read (l.below c) {} rest)
    | none => do read l (← s.take l word rest) rest

end Reading

end CollectionRunner.CommandLine
