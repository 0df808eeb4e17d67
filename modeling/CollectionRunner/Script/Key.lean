import CollectionRunner.Script.Numeral

namespace CollectionRunner.Script

/-- A property's name. A text that is an array index in its usual form is always an `index`. -/
inductive Key where
  | index (n : Nat)
  | text (u : Units)
  | symbol (id : Nat)
  deriving DecidableEq, Repr, Inhabited

namespace Key

def ofUnits (u : Units) : Key :=
  match indexOfUnits? u with
  | some n => .index n
  | none => .text u

def ofString (s : String) : Key := ofUnits (.ofString s)

/-- The name of the element at a place; far places are no indices. -/
def ofNat (n : Nat) : Key :=
  if n < 4294967295 then .index n else .text (.ofString (toString n))

/-- The name as text, unless it is a symbol. -/
def units? : Key → Option Units
  | .index n => some (.ofString (toString n))
  | .text u => some u
  | .symbol _ => none

/-- The name as it stands in a message. -/
def shown : Key → String
  | .index n => toString n
  | .text u => u.lossyString
  | .symbol _ => ""

def isSymbol : Key → Bool
  | .symbol _ => true
  | _ => false

end Key

end CollectionRunner.Script
