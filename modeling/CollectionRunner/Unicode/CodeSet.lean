import CollectionRunner.Unicode.Packed

namespace CollectionRunner.Unicode

/-- One more than the greatest code point. -/
def codeCount : Nat := 0x110000

/-- A set of code points: the ordered borders between those outside and those inside, the first of
which opens a stretch of members. -/
structure CodeSet where
  borders : Array Nat
  deriving DecidableEq, Repr, Inhabited

namespace CodeSet

/-- How many of the borders from `low` to `high` are no greater than a number, added to `low`; the
stretch is halved `fuel` times at most. -/
def rankWithin (borders : Array Nat) (n : Nat) : (fuel low high : Nat) → Nat
  | 0, low, _ => low
  | fuel + 1, low, high =>
    if high ≤ low then low
    else
      let middle := (low + high) / 2
      if borders.getD middle 0 ≤ n then rankWithin borders n fuel (middle + 1) high
      else rankWithin borders n fuel low middle

/-- How many of the borders are no greater than a number. -/
def rank (s : CodeSet) (n : Nat) : Nat := rankWithin s.borders n 24 0 s.borders.size

def contains (s : CodeSet) (n : Nat) : Bool := s.rank n % 2 == 1

def empty : CodeSet := ⟨#[]⟩

def range (first last : Nat) : CodeSet := ⟨#[first, last + 1]⟩

def single (n : Nat) : CodeSet := range n n

def all : CodeSet := ⟨#[0, codeCount]⟩

/-- The borders of a set that is made of two others, of whose borders those are left; `inA`, `inB`
and `inside` tell what holds before them. -/
def combineFrom (f : Bool → Bool → Bool) : (fuel : Nat) → (a b : List Nat) →
    (inA inB inside : Bool) → (done : Array Nat) → Array Nat
  | 0, _, _, _, _, _, done => done
  | fuel + 1, a, b, inA, inB, inside, done =>
    let step (n : Nat) (a b : List Nat) (inA inB : Bool) : Array Nat :=
      let now := f inA inB
      combineFrom f fuel a b inA inB now (if now == inside then done else done.push n)
    match a, b with
    | [], [] => done
    | x :: a', [] => step x a' [] (! inA) inB
    | [], y :: b' => step y [] b' inA (! inB)
    | x :: a', y :: b' =>
      if x < y then step x a' b (! inA) inB
      else if y < x then step y a b' inA (! inB)
      else step x a' b' (! inA) (! inB)

/-- The set of the code points of which `f` holds, given whether they are in either set. -/
def combine (f : Bool → Bool → Bool) (a b : CodeSet) : CodeSet :=
  ⟨combineFrom f (a.borders.size + b.borders.size + 1) a.borders.toList b.borders.toList
    false false false #[]⟩

def union (a b : CodeSet) : CodeSet := combine (· || ·) a b

def diff (a b : CodeSet) : CodeSet := combine (fun x y => x && ! y) a b

def compl (s : CodeSet) : CodeSet := all.diff s

/-- The borders of the stretches that ordered numbers form. -/
def bordersOf : List Nat → (done : Array Nat) → Array Nat
  | [], done => done
  | n :: rest, done =>
    if done.back? == some n then bordersOf rest (done.pop.push (n + 1))
    else if done.back? == some (n + 1) then bordersOf rest done
    else bordersOf rest ((done.push n).push (n + 1))

/-- The set of some code points. -/
def ofList (codes : List Nat) : CodeSet := ⟨bordersOf (codes.mergeSort (· ≤ ·)) #[]⟩

/-- The sums of the numbers up to each of them. -/
def runningSums : List Nat → Nat → Array Nat → Array Nat
  | [], _, done => done
  | n :: rest, total, done => runningSums rest (total + n) (done.push (total + n))

/-- The set whose borders stand in packed text, each as its distance from the one before. -/
def packed (lines : List String) : CodeSet := ⟨runningSums (unpack lines).toList 0 #[]⟩

def unionAll (sets : List CodeSet) : CodeSet := sets.foldl union empty

end CodeSet

end CollectionRunner.Unicode
