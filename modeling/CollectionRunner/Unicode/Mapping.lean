import CollectionRunner.Unicode.CodeSet

namespace CollectionRunner.Unicode

/-- Code points at equal distances, each of which has the one that lies `shift` further. -/
structure MappedRun where
  first : Nat
  count : Nat
  step : Nat
  shift : Int
  deriving DecidableEq, Repr, Inhabited

/-- What stands for code points: one other one for those of the runs, several for the rest, which
`keys` holds in order. A code point in neither stands for itself. -/
structure Mapping where
  starts : Array Nat
  runs : Array MappedRun
  keys : Array Nat
  lists : Array (List Nat)
  deriving DecidableEq, Repr, Inhabited

namespace Mapping

/-- The place of the last of the ordered numbers that is no greater than `n`. -/
def place? (starts : Array Nat) (n : Nat) : Option Nat :=
  match CodeSet.rankWithin starts n 24 0 starts.size with
  | 0 => none
  | k + 1 => some k

def ofRun? (m : Mapping) (n : Nat) : Option Nat :=
  match (place? m.starts n).bind (m.runs[·]?) with
  | none => none
  | some run =>
    let away := n - run.first
    if away % run.step = 0 && away / run.step < run.count then
      some ((n : Int) + run.shift).toNat
    else none

/-- The code points that stand for one in the table. -/
def find? (m : Mapping) (n : Nat) : Option (List Nat) :=
  match m.ofRun? n with
  | some t => some [t]
  | none =>
    match place? m.keys n with
    | none => none
    | some k => if m.keys.getD k 0 = n then m.lists[k]? else none

def apply (m : Mapping) (n : Nat) : List Nat := (m.find? n).getD [n]

/-- The runs in a row of numbers, three for each: the distance from the end of the one before, the
count and the step in one number, and the shift. -/
def runsOf : List Nat → (last : Nat) → (done : Array MappedRun) → Array MappedRun
  | away :: size :: shift :: rest, last, done =>
    let run : MappedRun := ⟨last + away, size / 2 + 1, size % 2 + 1, signed shift⟩
    runsOf rest (run.first + (run.count - 1) * run.step) (done.push run)
  | _, _, done => done

/-- The numbers that a row of differences leads to. -/
def stepsFrom (n : Nat) : List Nat → List Nat
  | [] => []
  | d :: rest => let t := ((n : Int) + signed d).toNat; t :: stepsFrom t rest

/-- The lists in a row of numbers: the distance of the key from the one before, how many there are,
and the way from each to the next. -/
def listsOf : (fuel : Nat) → List Nat → (last : Nat) → (done : Array (Nat × List Nat)) →
    Array (Nat × List Nat)
  | fuel + 1, away :: count :: rest, last, done =>
    let key := last + away
    listsOf fuel (rest.drop count) key (done.push (key, stepsFrom key (rest.take count)))
  | _, _, _, done => done

/-- A table from packed text: its runs, and its lists. -/
def packed (runs lists : List String) : Mapping :=
  let runs := runsOf (unpack runs).toList 0 #[]
  let row := (unpack lists).toList
  let lists := listsOf row.length row 0 #[]
  ⟨runs.map (·.first), runs, lists.map (·.1), lists.map (·.2)⟩

end Mapping

end CollectionRunner.Unicode
