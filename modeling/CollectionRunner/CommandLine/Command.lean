namespace CollectionRunner.CommandLine

/-- What the value of an argument has to be. -/
inductive ValueKind where
  | path
  | text
  | count
  deriving DecidableEq, Repr

inductive Effect where
  /-- Is on when it is given, which is once at most. -/
  | switch
  /-- Counts how often it is given. -/
  | counter
  | value (placeholder : String) (kind : ValueKind)
  | help
  | version
  deriving DecidableEq, Repr

/-- An argument that is given by name. One that is shared also belongs to the commands below. -/
structure Flag where
  long : String
  short : Option Char := none
  effect : Effect
  about : String
  default : Option String := none
  shared : Bool := false
  deriving DecidableEq, Repr

/-- An argument that is given by its place. -/
structure Operand where
  placeholder : String
  kind : ValueKind
  about : String := ""
  deriving DecidableEq, Repr

structure Command where
  name : String
  about : String
  version : Option String := none
  flags : List Flag := []
  operands : List Operand := []
  commands : List Command := []

namespace Flag

/-- The flag with what is to be put for its value. -/
def display (f : Flag) : String :=
  "--" ++ f.long ++ match f.effect with
    | .value placeholder _ => " <" ++ placeholder ++ ">"
    | .counter => "..."
    | _ => ""

/-- The names of a flag as its help shows them. -/
def term (f : Flag) : String :=
  (match f.short with
    | some c => "-" ++ String.singleton c ++ ", "
    | none => "    ") ++ f.display

/-- What a flag is for, and the value that it has when it is not given. -/
def explanation (f : Flag) : String :=
  f.about ++ match f.default with
    | some v => " [default: " ++ v ++ "]"
    | none => ""

end Flag

def Operand.display (o : Operand) : String := "<" ++ o.placeholder ++ ">"

def helpFlag : Flag := ⟨"help", some 'h', .help, "Print help", none, false⟩

def versionFlag : Flag := ⟨"version", some 'V', .version, "Print version", none, false⟩

/-- A command where it stands: the names that lead to it and the flags that it shares with the
commands above. -/
structure Level where
  path : String
  command : Command
  inherited : List Flag := []

namespace Level

def top (c : Command) : Level := { path := c.name, command := c }

/-- A command below this one. -/
def below (l : Level) (c : Command) : Level :=
  ⟨l.path ++ " " ++ c.name, c, l.inherited ++ l.command.flags.filter (·.shared)⟩

def command? (l : Level) (name : String) : Option Command :=
  l.command.commands.find? (·.name == name)

/-- The flags that are there for every command. -/
def builtin (l : Level) : List Flag :=
  helpFlag :: if l.command.version.isSome then [versionFlag] else []

def flags (l : Level) : List Flag := l.command.flags ++ l.inherited ++ l.builtin

def flagOfLong? (l : Level) (name : String) : Option Flag := l.flags.find? (·.long == name)

def flagOfShort? (l : Level) (c : Char) : Option Flag := l.flags.find? (·.short == some c)

def versionText (l : Level) : String := l.command.name ++ " " ++ l.command.version.getD "" ++ "\n"

/-- What a command line of the command looks like, given what stands for its flags and operands. -/
def usageOf (l : Level) (arguments : List String) : String :=
  String.intercalate " "
    (l.path :: arguments ++ if l.command.commands.isEmpty then [] else ["<COMMAND>"])

def operandTexts (l : Level) : List String := l.command.operands.map (·.display)

def usage (l : Level) : String :=
  let optional := if (l.command.flags ++ l.inherited).isEmpty then [] else ["[OPTIONS]"]
  l.usageOf (optional ++ l.operandTexts)

/-- The command's own arguments as alternatives. -/
def groupText (l : Level) : String :=
  "<" ++ String.intercalate "|"
    (l.command.operands.map (·.placeholder) ++ l.command.flags.map (·.display)) ++ ">"

/-- A usage that shows some flags. When it is grouped, the command's own arguments are shown as
alternatives, flags and operands alike. -/
def usageWith (l : Level) (flags : List Flag) (grouped : Bool) : String :=
  let shown := if grouped then flags.filter fun f => ! l.command.flags.contains f else flags
  l.usageOf ((shown.map (·.display)).eraseDups ++
    if grouped then [l.groupText] else l.operandTexts)

/-- Every second element from each of two lists in turn, and the rest of the longer one. -/
def interleave {α : Type} : List α → List α → List α
  | [], bs => bs
  | as, [] => as
  | a :: as, b :: bs => a :: b :: interleave as bs

/-- A heading and rows of two columns below it; nothing when there are no rows. -/
def table (heading : String) (rows : List (String × String)) : List String :=
  let width := (rows.map (·.1.length)).foldl max 0
  let line (row : String × String) : String :=
    "  " ++ row.1 ++ String.ofList (List.replicate (width - row.1.length) ' ') ++ "  " ++ row.2 ++
      "\n"
  if rows.isEmpty then [] else [heading ++ ":\n" ++ String.join (rows.map line)]

def help (l : Level) : String :=
  let flags := interleave l.command.flags l.inherited ++ l.builtin
  String.intercalate "\n"
    ([l.command.about ++ "\n", "Usage: " ++ l.usage ++ "\n"] ++
      table "Commands" (l.command.commands.map fun c => (c.name, c.about)) ++
      table "Arguments" (l.command.operands.map fun o => (o.display, o.about)) ++
      table "Options" (flags.map fun f => (f.term, f.explanation)))

end Level

end CollectionRunner.CommandLine
