namespace CollectionRunner.Text

/-- Each character of a word from place `i` on with the first free place of an equal character of
`other` that is at most `range` away. -/
def sharedPlaces (range : Nat) (other : List Char) (i : Nat) (taken : List Nat) :
    List Char → List (Char × Nat)
  | [] => []
  | c :: rest =>
    let isFree (p : Char × Nat) : Bool :=
      p.1 == c && i ≤ p.2 + range && p.2 ≤ i + range && ! taken.contains p.2
    match other.zipIdx.find? isFree with
    | none => sharedPlaces range other (i + 1) taken rest
    | some (_, place) => (c, place) :: sharedPlaces range other (i + 1) (place :: taken) rest

/-- A number from zero for words that share nothing to one for equal words: the mean of the shared
parts of both words and of the part that is in order. -/
def similarity (a b : String) : Float :=
  let range := max a.length b.length / 2 - 1
  let shared := sharedPlaces range b.toList 0 [] a.toList
  let places := shared.map (·.2)
  let inOther := (b.toList.zipIdx.filter fun p => places.contains p.2).map (·.1)
  let displaced := ((shared.zip inOther).filter fun p => p.1.1 != p.2).length / 2
  let count := shared.length
  if a = "" && b = "" then 1
  else if count = 0 then 0
  else
    (count.toFloat / a.length.toFloat + count.toFloat / b.length.toFloat +
      (count - displaced).toFloat / count.toFloat) / 3

/-- A word and a score, put behind those that have no higher score. -/
def placeScored (score : Float) (word : String) : List (Float × String) → List (Float × String)
  | [] => [(score, word)]
  | (s, w) :: rest =>
    if score < s then (score, word) :: (s, w) :: rest else (s, w) :: placeScored score word rest

/-- The words that are much like the given one, the most similar last. -/
def similarWords (word : String) (words : List String) : List String :=
  let add (found : List (Float × String)) (w : String) : List (Float × String) :=
    let score := similarity word w
    if 0.7 < score then placeScored score w found else found
  (words.foldl add []).map (·.2)

end CollectionRunner.Text
