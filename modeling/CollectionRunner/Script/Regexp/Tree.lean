import CollectionRunner.Script.Alphabet

namespace CollectionRunner.Script.Regexp

open Unicode

inductive Tree where
  | empty
  /-- A character, in the form in which it is compared. -/
  | char (code : Nat)
  /-- Any character, or any but the end of a line. -/
  | any (lines : Bool)
  /-- The characters of a set, in the form in which they are compared. -/
  | set (codes : CodeSet)
  | atStart
  | atEnd
  | boundary (negated : Bool)
  | group (body : Tree)
  | capture (index : Nat) (body : Tree)
  | backReference (index : Nat)
  | sequence (a b : Tree)
  | choice (a b : Tree)
  /-- A repetition of a part that holds the groups from `first` to before `last`. What these have
  caught is forgotten when it is entered anew, if it need not be there at all. -/
  | repeat (anew : Bool) (least : Nat) (most : Option Nat) (greedy : Bool) (first last : Nat)
      (body : Tree)
  | look (behind negated : Bool) (body : Tree)
  deriving Inhabited

structure Flags where
  indices : Bool := false
  global : Bool := false
  ignoreCase : Bool := false
  multiline : Bool := false
  dotAll : Bool := false
  unicode : Bool := false
  sets : Bool := false
  sticky : Bool := false

/-- A regular expression, the number of its groups and their names. -/
structure Expression where
  tree : Tree
  groups : Nat
  names : List (Units × Nat)
  flags : Flags

def isWordCode (n : Nat) : Bool :=
  (48 ≤ n && n ≤ 57) || (65 ≤ n && n ≤ 90) || (97 ≤ n && n ≤ 122) || n == 95

def isLineEnd (n : Nat) : Bool := n == 10 || n == 13 || n == 0x2028 || n == 0x2029

/-- The form of a character in which letters are compared when their case does not count. By code
points that is the folded one, and the capital one by units, unless that leaves or enters ASCII. -/
def folded (unicode : Bool) (n : Nat) : Nat :=
  if unicode then
    match n with
    | 0xFB06 => 0xFB05
    | 0x1FD3 => 0x390
    | 0x1FE3 => 0x3B0
    | n => Alphabet.simpleFold n
  else if n < 128 then if 97 ≤ n && n ≤ 122 then n - 32 else n
  else
    match Alphabet.upper n with
    | [d] => if d < 128 then n else d
    | _ => n

/-- A character as it is compared. -/
def Flags.form (f : Flags) (n : Nat) : Nat := if f.ignoreCase then folded f.unicode n else n

/-- The characters that are compared in another form than their own, and that form. -/
def foldedCodes (unicode : Bool) : List (Nat × Nat) :=
  let table := if unicode then Case.simpleFolds else Case.capitals
  let inRuns := table.runs.toList.flatMap fun run =>
    (List.range run.count).map fun i => run.first + i * run.step
  let codes := List.range 128 ++ inRuns.filter (128 ≤ ·) ++ [0xFB06, 0x1FD3, 0x1FE3]
  codes.filterMap fun n => let d := folded unicode n; if d = n then none else some (n, d)

def foldedByCodes : List (Nat × Nat) := foldedCodes true

def foldedByUnits : List (Nat × Nat) := foldedCodes false

/-- The set of the forms in which the members of another are compared. -/
def formsOf (f : Flags) (s : CodeSet) : CodeSet :=
  if ! f.ignoreCase then s
  else
    let moved := (if f.unicode then foldedByCodes else foldedByUnits).filter (s.contains ·.1)
    (s.diff (.ofList (moved.map (·.1)))).union (.ofList (moved.map (·.2)))

/-- How far a match has come: its place, and where what the groups have caught starts and ends,
each start before its end. -/
structure Place where
  position : Nat
  caught : Array (Option Nat)
  deriving Inhabited

/-- The character after a place, or before it when reading backwards, and the place beyond. -/
def step (f : Flags) (text : Units) (back : Bool) (i : Nat) : Option (Nat × Nat) :=
  if back then
    if i = 0 then none
    else
      let y := text.getD (i - 1) 0
      if f.unicode && Units.isLow y && 2 ≤ i && Units.isHigh (text.getD (i - 2) 0) then
        some (Units.pair (text.getD (i - 2) 0) y, i - 2)
      else some (y.toNat, i - 1)
  else if text.size ≤ i then none
  else if f.unicode then
    let (n, count) := Units.codeAt text i
    some (n, i + count)
  else some ((text.getD i 0).toNat, i + 1)

/-- Whether a part that always takes one character takes this one. -/
def Tree.takes? (f : Flags) : Tree → Option (Nat → Bool)
  | .char code => some fun n => f.form n == code
  | .any lines => some fun n => lines || ! isLineEnd n
  | .set codes => some fun n => codes.contains (f.form n)
  | _ => none

def isWordAt (text : Units) (i : Nat) : Bool := i < text.size && isWordCode (text.getD i 0).toNat

/-- The places after one character more each, as long as they are taken, the farthest first. -/
def run (f : Flags) (text : Units) (back : Bool) (takes : Nat → Bool) :
    Nat → Nat → List Nat → List Nat
  | 0, i, before => i :: before
  | n + 1, i, before =>
    match step f text back i with
    | some (c, j) => if takes c then run f text back takes n j (i :: before) else i :: before
    | none => i :: before

/-- Goes on from a place past a part of the text that has been caught, character by character, if it
stands there as well; `first` and `last` bound what is left of that part. -/
def sameText (f : Flags) (text : Units) (back : Bool) : (fuel first last i : Nat) → Option Nat
  | 0, _, _, _ => none
  | fuel + 1, first, last, i =>
    if last ≤ first then some i
    else
      let edge := if back then last - 1 else first
      let (a, j) : Nat × Nat :=
        match step f text back (if back then last else first) with
        | some (a, j) => if first ≤ j && j ≤ last then (a, j) else ((text.getD edge 0).toNat, edge)
        | none => (0, edge)
      match step f text back i with
      | some (b, next) =>
        if f.form a = f.form b then
          if back then sameText f text back fuel first (min j edge) next
          else sameText f text back fuel (max j (edge + 1)) last next
        else none
      | none => none

/-- What a group has caught: where it starts and ends. -/
def spanOf (caught : Array (Option Nat)) (index : Nat) : Option (Nat × Nat) :=
  match caught.getD (2 * index) none, caught.getD (2 * index + 1) none with
  | some first, some last => some (first, last)
  | _, _ => none

def forget (first last : Nat) (caught : Array (Option Nat)) : Array (Option Nat) :=
  (List.range (2 * (last - first))).foldl (fun c i => c.setIfInBounds (2 * first + i) none) caught

/-- Matches a part at a place and then what comes after it, trying the ways in their order. Parts
lead to parts `fuel` times at most. -/
def matchTree (f : Flags) (text : Units) : Nat → Tree → Bool → Place → (Place → Option Place) →
    Option Place
  | 0, _, _, _, _ => none
  | fuel + 1, t, back, at', next =>
    let i := at'.position
    let go (t : Tree) (back : Bool) (at' : Place) (next : Place → Option Place) : Option Place :=
      matchTree f text fuel t back at' next
    match t with
    | .empty => next at'
    | .char _ | .any _ | .set _ =>
      match t.takes? f, step f text back i with
      | some takes, some (c, j) => if takes c then next { at' with position := j } else none
      | _, _ => none
    | .atStart =>
      if i = 0 || (f.multiline && isLineEnd (text.getD (i - 1) 0).toNat) then next at' else none
    | .atEnd =>
      if text.size ≤ i || (f.multiline && isLineEnd (text.getD i 0).toNat) then next at' else none
    | .boundary negated =>
      let here := (i != 0 && isWordAt text (i - 1)) != isWordAt text i
      if here != negated then next at' else none
    | .group body => go body back at' next
    | .capture index body =>
      let mark (side : Nat) (p : Place) : Place :=
        { p with caught := p.caught.setIfInBounds (2 * index + side) (some p.position) }
      go body back (mark (if back then 1 else 0) at') fun after =>
        next (mark (if back then 0 else 1) after)
    | .backReference index =>
      match spanOf at'.caught index with
      | none => next at'
      | some (first, last) =>
        match sameText f text back (text.size + 1) first last i with
        | some j => next { at' with position := j }
        | none => none
    | .sequence a b =>
      if back then go b back at' fun after => go a back after next
      else go a back at' fun after => go b back after next
    | .choice a b =>
      match go a back at' next with
      | some r => some r
      | none => go b back at' next
    | .look behind negated body =>
      match go body behind at' some, negated with
      | some after, false => next { after with position := i }
      | none, true => next at'
      | _, _ => none
    | .repeat anew least most greedy first last body =>
      let at' : Place :=
        if anew && least = 0 then { at' with caught := forget first last at'.caught } else at'
      let limit := most.getD (text.size + least + 1)
      match body.takes? f with
      | some takes =>
        let places := run f text back takes limit i []
        let enough := places.take (places.length - least)
        if places.length ≤ least then none
        else
          (if greedy then enough else enough.reverse).findSome? fun j =>
            next { at' with position := j }
      | none =>
        if limit = 0 then next at'
        else
          let once (_ : Unit) : Option Place :=
            go body back at' fun after =>
              if after.position = i && least = 0 then none
              else
                go (.repeat false (least - 1) (most.map (· - 1)) greedy first last body) back after
                  next
          if 0 < least then once ()
          else if greedy then
            match once () with
            | some r => some r
            | none => next at'
          else
            match next at' with
            | some r => some r
            | none => once ()

/-- How many steps a match may take one within another. -/
def matchFuel : Nat := 100000000

/-- The groups of a match that begins at a place; the whole of it is the first. -/
def Expression.matchAt (p : Expression) (text : Units) (i : Nat) :
    Option (Array (Option (Nat × Nat))) :=
  let start : Place := ⟨i, Array.replicate (2 * (p.groups + 1)) none⟩
  (matchTree p.flags text matchFuel p.tree false start some).map fun after =>
    let spans := ((List.range (p.groups + 1)).map (spanOf after.caught)).toArray
    spans.setIfInBounds 0 (some (i, after.position))

/-- The groups of the first match from a place on. -/
def Expression.searchFrom (p : Expression) (text : Units) : Nat → Nat →
    Option (Array (Option (Nat × Nat)))
  | 0, _ => none
  | n + 1, i =>
    match p.matchAt text i with
    | some groups => some groups
    | none =>
      if p.flags.sticky || text.size ≤ i then none
      else searchFrom p text n (if p.flags.unicode then i + (Units.codeAt text i).2 else i + 1)

/-- The groups of the first match from a place on. -/
def Expression.exec (p : Expression) (text : Units) (i : Nat) :
    Option (Array (Option (Nat × Nat))) :=
  p.searchFrom text (text.size + 2) i

end CollectionRunner.Script.Regexp
