import CollectionRunner.Script.Units
import CollectionRunner.Unicode.Case
import CollectionRunner.Unicode.Category
import CollectionRunner.Unicode.Normalization

namespace CollectionRunner.Script

open Unicode

namespace Units

/-- The code points of a text; a half that stands alone is one of its own. -/
def codesFrom (u : Units) (i : Nat) (done : Array Nat) : Array Nat :=
  if i < u.size then
    let (n, count) := codeAt u i
    codesFrom u (i + (if count = 2 then 2 else 1)) (done.push n)
  else done
termination_by u.size - i
decreasing_by split <;> omega

def codes (u : Units) : List Nat := (codesFrom u 0 #[]).toList

def ofCodes (codes : List Nat) : Units := codes.foldl pushCode #[]

end Units

namespace Alphabet

/-- The members of a set that scripts know. -/
def known (s : CodeSet) : CodeSet := s.diff newest

/-- What a table says of a code point, unless that is about new ones. -/
def unlessNew (f : Nat → List Nat) (n : Nat) : List Nat :=
  let out := f n
  if out == [n] || ! (newest.contains n || out.any newest.contains) then out else [n]

def upper (n : Nat) : List Nat :=
  if n < 128 then [if 97 ≤ n && n ≤ 122 then n - 32 else n] else unlessNew Case.upper n

def lower (n : Nat) : List Nat :=
  if n < 128 then [if 65 ≤ n && n ≤ 90 then n + 32 else n] else unlessNew Case.lower n

def simpleFold (n : Nat) : Nat :=
  if n < 128 then if 65 ≤ n && n ≤ 90 then n + 32 else n
  else (unlessNew (fun n => [Case.simpleFold n]) n).headD n

def nameStarts : CodeSet := known Property.idStart.codes

def nameParts : CodeSet := known Property.idContinue.codes

def isNameStart (n : Nat) : Bool :=
  if n < 128 then (Char.ofNat n).isAlpha || n = 0x24 || n = 0x5F else nameStarts.contains n

def isNamePart (n : Nat) : Bool :=
  if n < 128 then (Char.ofNat n).isAlphanum || n = 0x24 || n = 0x5F
  else nameParts.contains n || n = 0x200C || n = 0x200D

def upperText (u : Units) : Units := Units.ofCodes (u.codes.flatMap upper)

def lowerText (u : Units) : Units := Units.ofCodes (Case.lowerText lower u.codes)

/-- A text in a normal form. -/
def normalText (form : NormalForm) (u : Units) : Units := Units.ofCodes (form.apply u.codes)

end Alphabet

end CollectionRunner.Script
