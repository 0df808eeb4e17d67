import CollectionRunner.Json.Value
import CollectionRunner.Text.Digits

namespace CollectionRunner.Json

/-- The member of an object or an array that one segment of a path names. -/
def step? (segment : String) : Value → Option Value
  | .object fields => field? segment fields
  | .array items => do
    let index ← Text.natBelow? (Nat.pow 2 64) segment
    items[index]?
  | _ => none

/-- The segments of a path: what stands between its points. -/
def segmentsFrom (segment : List Char) : List Char → List (List Char)
  | [] => [segment.reverse]
  | '.' :: rest => segment.reverse :: segmentsFrom [] rest
  | c :: rest => segmentsFrom (c :: segment) rest

def segments (path : String) : List String := (segmentsFrom [] path.toList).map String.ofList

/-- The part that segments lead to. -/
def walk? : List String → Value → Option Value
  | [], v => some v
  | s :: rest, v => (step? s v).bind (walk? rest)

/-- A path that leads nowhere. -/
inductive PathError where
  | notFound (path : String)
  deriving DecidableEq, Repr

def PathError.message : PathError → String
  | .notFound path => "path '" ++ path ++ "' not found"

/-- The part of a value that a path leads to; the empty path leads to the value itself. -/
def lookup (root : Value) (path : String) : Except PathError Value :=
  if path = "" then .ok root
  else match walk? (segments path) root with
    | some v => .ok v
    | none => .error (.notFound path)

end CollectionRunner.Json
