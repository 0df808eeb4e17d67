import CollectionRunner.Json.Writer

namespace CollectionRunner.Json

/-- Whole numbers have no fraction; a double is written out digit by digit. -/
def Number.naturalText : Number → String
  | .integer n => toString n
  | .double d =>
    match d.toInt? with
    | some n => if n.natAbs < Nat.pow 10 15 then toString n else Decimal.plain.text d
    | none => Decimal.plain.text d

/-- Text of a scalar without quotes; containers as compact JSON. -/
def Value.naturalText : Value → String
  | .null => "null"
  | .bool b => if b then "true" else "false"
  | .number n => n.naturalText
  | .string s => s
  | v => v.compact

mutual

/-- Scalars match when their natural texts are equal, arrays element by element, and objects of
the same size when every member of one matches that of the other. -/
def Value.similar : Value → Value → Bool
  | .array left, .array right => similarItems left right
  | .object left, .object right =>
    left.length == right.length && similarFields left right
  | .array _, _ | .object _, _ | _, .array _ | _, .object _ => false
  | left, right => left.naturalText == right.naturalText

def similarItems : List Value → List Value → Bool
  | [], [] => true
  | l :: left, r :: right => l.similar r && similarItems left right
  | _, _ => false

def similarFields : List (String × Value) → List (String × Value) → Bool
  | [], _ => true
  | (k, l) :: left, right =>
    (match field? k right with
      | some r => l.similar r
      | none => false) && similarFields left right

end

end CollectionRunner.Json
