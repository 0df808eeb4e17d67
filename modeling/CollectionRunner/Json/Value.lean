import CollectionRunner.Decimal.Notation

namespace CollectionRunner.Json

/-- A number: whole numbers keep all their digits, the others are doubles. -/
inductive Number where
  | integer (n : Int)
  | double (d : Decimal.Binary64)
  deriving DecidableEq, Repr

/-- The fields of an object stand in the order of their keys, and no key stands twice. -/
inductive Value where
  | null
  | bool (b : Bool)
  | number (n : Number)
  | string (s : String)
  | array (items : List Value)
  | object (fields : List (String × Value))
  deriving Repr, Inhabited, BEq

/-- Puts a field at its place in an ordered list of fields; a later value wins. -/
def insertField {α : Type} (key : String) (value : α) : List (String × α) → List (String × α)
  | [] => [(key, value)]
  | (k, v) :: rest =>
    if key = k then (key, value) :: rest
    else if key < k then (key, value) :: (k, v) :: rest
    else (k, v) :: insertField key value rest

/-- The object with the given fields, of which the last of each key counts. -/
def Value.ofFields (fields : List (String × Value)) : Value :=
  .object (fields.foldl (fun acc f => insertField f.1 f.2 acc) [])

/-- The value of a key in a list of fields. -/
def field? {α : Type} (key : String) : List (String × α) → Option α
  | [] => none
  | (k, v) :: rest => if k = key then some v else field? key rest

/-- The member of an object. -/
def Value.member? (key : String) : Value → Option Value
  | .object fields => field? key fields
  | _ => none

end CollectionRunner.Json
