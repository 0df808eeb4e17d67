namespace CollectionRunner.CommandLine

/-- What is wrong. Arguments are given as they are displayed. -/
inductive Problem where
  | unexpected (argument : String)
  | unknownCommand (name : String)
  | noValue (argument : String)
  | badValue (value argument reason : String)
  | surplusValue (value argument : String)
  | repeated (argument : String)
  | missing (arguments : List String)
  | noCommand (path : String) (commands : List String)
  deriving DecidableEq, Repr

namespace Problem

def message : Problem → String
  | unexpected argument => "unexpected argument '" ++ argument ++ "' found"
  | unknownCommand name => "unrecognized subcommand '" ++ name ++ "'"
  | noValue argument => "a value is required for '" ++ argument ++ "' but none was supplied"
  | badValue value argument reason =>
    "invalid value '" ++ value ++ "' for '" ++ argument ++ "': " ++ reason
  | surplusValue value argument =>
    "unexpected value '" ++ value ++ "' for '" ++ argument ++
      "' found; no more were expected"
  | repeated argument => "the argument '" ++ argument ++ "' cannot be used multiple times"
  | missing arguments =>
    "the following required arguments were not provided:" ++
      String.join (arguments.map ("\n  " ++ ·))
  | noCommand path commands =>
    "'" ++ path ++ "' requires a subcommand but one was not provided\n  [subcommands: " ++
      String.intercalate ", " commands ++ "]"

end Problem

/-- What may have been meant. -/
inductive Tip where
  | similarFlag (long : String)
  | similarCommands (names : List String)
  /-- The flag belongs to a command below. -/
  | flagOf (command long : String)
  | asValue (argument : String)
  | withoutDashes (command : String)
  deriving DecidableEq, Repr

namespace Tip

def message : Tip → String
  | similarFlag long => "a similar argument exists: '--" ++ long ++ "'"
  | similarCommands [name] => "a similar subcommand exists: '" ++ name ++ "'"
  | similarCommands names =>
    "some similar subcommands exist: " ++
      String.intercalate ", " (names.map fun n => "'" ++ n ++ "'")
  | flagOf command long => "'" ++ command ++ " --" ++ long ++ "' exists"
  | asValue argument =>
    "to pass '" ++ argument ++ "' as a value, use '-- " ++ argument ++ "'"
  | withoutDashes command =>
    "subcommand '" ++ command ++ "' exists; to use it, remove the '--' before it"

end Tip

structure Complaint where
  problem : Problem
  tip : Option Tip := none
  usage : Option String := none
  deriving DecidableEq, Repr

/-- The complaint as it is printed. -/
def Complaint.text (c : Complaint) : String :=
  let tip := (c.tip.map fun t => "\n\n  tip: " ++ t.message).getD ""
  let usage := (c.usage.map ("\n\nUsage: " ++ ·)).getD ""
  "error: " ++ c.problem.message ++ tip ++ usage ++
    "\n\nFor more information, try '--help'.\n"

end CollectionRunner.CommandLine
