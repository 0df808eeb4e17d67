import CollectionRunner.Unicode.Decomposition

namespace CollectionRunner.Unicode

/-- Whether parts are joined again at the end, and whether those that only look or sound alike
count as the same. -/
structure NormalForm where
  composed : Bool
  compatible : Bool
  deriving DecidableEq, Repr, Inhabited

namespace NormalForm

def nfc : NormalForm := ⟨true, false⟩

def nfd : NormalForm := ⟨false, false⟩

def nfkc : NormalForm := ⟨true, true⟩

def nfkd : NormalForm := ⟨false, true⟩

def named? : String → Option NormalForm
  | "NFC" => some nfc
  | "NFD" => some nfd
  | "NFKC" => some nfkc
  | "NFKD" => some nfkd
  | _ => none

end NormalForm

namespace Normalization

/-- The stretches of marks: where each starts and ends, and its class. -/
def classesOf : List Nat → (last : Nat) → (done : Array (Nat × Nat × Nat)) →
    Array (Nat × Nat × Nat)
  | away :: more :: cls :: rest, last, done =>
    let first := last + away
    classesOf rest (first + more) (done.push (first, first + more, cls))
  | _, _, done => done

def classes : Array (Nat × Nat × Nat) :=
  classesOf (unpack Decomposition.classRows).toList 0 #[]

def classStarts : Array Nat := classes.map (·.1)

/-- The class of a mark, which orders it among others after the same letter; 0 for all else. -/
def combiningClass (n : Nat) : Nat :=
  match (Mapping.place? classStarts n).bind (classes[·]?) with
  | some (_, last, cls) => if n ≤ last then cls else 0
  | none => 0

/-- The key of two parts among the others: the first counts most. -/
def pairKey (a b : Nat) : Nat := a * 0x200000 + b

def pairsOf : List Nat → (last : Nat) → (done : Array (Nat × Nat)) → Array (Nat × Nat)
  | away :: b :: shift :: rest, last, done =>
    let a := last + away
    pairsOf rest a (done.push (pairKey a b, ((a : Int) + signed shift).toNat))
  | _, _, done => done

def pairs : Array (Nat × Nat) := pairsOf (unpack Decomposition.pairRows).toList 0 #[]

def pairKeys : Array Nat := pairs.map (·.1)

/-- The syllable that two parts of a Korean one make. -/
def composeHangul? (a b : Nat) : Option Nat :=
  if 0x1100 ≤ a && a < 0x1113 && 0x1161 ≤ b && b < 0x1176 then
    some (0xAC00 + ((a - 0x1100) * 21 + (b - 0x1161)) * 28)
  else if 0xAC00 ≤ a && a < 0xD7A4 && (a - 0xAC00) % 28 = 0 && 0x11A8 ≤ b && b < 0x11C3 then
    some (a + (b - 0x11A7))
  else none

/-- The code point that stands for two others. -/
def compose? (a b : Nat) : Option Nat :=
  match composeHangul? a b with
  | some c => some c
  | none =>
    match (Mapping.place? pairKeys (pairKey a b)).bind (pairs[·]?) with
    | some (key, c) => if key = pairKey a b then some c else none
    | none => none

/-- The parts of a Korean syllable. -/
def decomposeHangul (n : Nat) : List Nat :=
  let s := n - 0xAC00
  let ending := s % 28
  [0x1100 + s / 588, 0x1161 + s % 588 / 28] ++ if ending = 0 then [] else [0x11A7 + ending]

def decompose (compatible : Bool) (n : Nat) : List Nat :=
  if 0xAC00 ≤ n && n < 0xD7A4 then decomposeHangul n
  else
    match if compatible then Decomposition.compatible.find? n else none with
    | some parts => parts
    | none => Decomposition.canonical.apply n

/-- Puts marks in the order of their classes, where no letter stands between them; `held` are the
marks since the last letter, each with its class. -/
def orderFrom : List Nat → (held : List (Nat × Nat)) → (done : Array Nat) → Array Nat
  | [], held, done => done ++ (sorted held).toArray
  | n :: rest, held, done =>
    match combiningClass n with
    | 0 => orderFrom rest [] ((done ++ (sorted held).toArray).push n)
    | cls => orderFrom rest ((cls, n) :: held) done
where
  sorted (held : List (Nat × Nat)) : List Nat :=
    (held.reverse.mergeSort (fun a b => a.1 ≤ b.1)).map (·.2)

def order (codes : List Nat) : List Nat := (orderFrom codes [] #[]).toList

/-- Joins each mark with the letter before it where a code point stands for both and no mark of the
same class or a higher one stands between. `starter` is that letter, `held` are what stands after
it, the last one first, and `highest` is the class of that one. -/
def composeFrom : List Nat → (starter : Option Nat) → (held : List Nat) → (highest : Option Nat) →
    (done : Array Nat) → Array Nat
  | [], starter, held, _, done => finish starter held done
  | n :: rest, none, held, _, done =>
    if combiningClass n = 0 then composeFrom rest (some n) [] none (finish none held done)
    else composeFrom rest none (n :: held) none done
  | n :: rest, some letter, held, highest, done =>
    let cls := combiningClass n
    let blocked : Bool :=
      match highest with
      | none => false
      | some h => cls ≤ h
    match if blocked then none else compose? letter n with
    | some joined => composeFrom rest (some joined) held highest done
    | none =>
      if cls = 0 then composeFrom rest (some n) [] none (finish (some letter) held done)
      else composeFrom rest (some letter) (n :: held) (some cls) done
where
  finish (starter : Option Nat) (held : List Nat) (done : Array Nat) : Array Nat :=
    (match starter with
      | some n => done.push n
      | none => done) ++ held.reverse.toArray

def compose (codes : List Nat) : List Nat := (composeFrom codes none [] none #[]).toList

end Normalization

/-- A text in a normal form. -/
def NormalForm.apply (form : NormalForm) (codes : List Nat) : List Nat :=
  let parts := Normalization.order (codes.flatMap (Normalization.decompose form.compatible))
  if form.composed then Normalization.compose parts else parts

end CollectionRunner.Unicode
