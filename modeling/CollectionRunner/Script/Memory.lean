import CollectionRunner.Script.Heap

namespace CollectionRunner.Script

/-- The bytes of an object, and the values that it holds. -/
def Obj.contents (o : Obj) : Nat × List Value :=
  let held := o.properties.toList.filterMap fun (_, p) =>
    match p.slot with
    | .data v _ => some v
    | .accessor .. => none
  let base := 72 + 32 * o.properties.size
  match o.kind with
  | .array items .. => (base + 16 * items.size, items.toList.filterMap id ++ held)
  | .map es | .set es =>
    (base + 72 * es.size, (es.toList.filterMap id).flatMap (fun (k, v) => [k, v]) ++ held)
  | .buffer bytes _ => (base + bytes.size, held)
  | _ => (base, held)

namespace Store

/-- Adds up the bytes of values and of all that they hold, until they are more than the limit; what
has been seen counts once. -/
def weigh (s : Store) (limit : Nat) : (fuel : Nat) → List Value → (seen : Array Bool) → Nat → Nat
  | 0, _, _, total => total
  | _, [], _, total => total
  | n + 1, v :: rest, seen, total =>
    if limit < total then total
    else
      match v with
      | .text u => weigh s limit n rest seen (total + 24 + u.size)
      | .object r =>
        if seen.getD r true then weigh s limit n rest seen total
        else
          let (bytes, held) := (s.obj r).contents
          weigh s limit n (held ++ rest) (seen.setIfInBounds r true) (total + bytes)
      | _ => weigh s limit n rest seen total

/-- Whether an object and all that it holds take up more memory than there is. -/
def isTooHeavy (s : Store) (r : Ref) : Bool :=
  s.memoryLimit < s.weigh s.memoryLimit s.memoryLimit [.object r]
    (Array.replicate s.objects.size false) 0

/-- Whether there is no memory for so many elements in a row. -/
def exceeds (s : Store) (elements : Nat) : Bool :=
  s.memoryLimit != 0 && s.memoryLimit < 48 * elements

/-- Whether there is no memory for an element after those that an array has. What the array holds is
weighed each time that it has grown to the double. -/
def cannotGrow (s : Store) (r : Ref) (i : Nat) : Bool :=
  s.memoryLimit != 0 &&
    match s.obj r with
    | { kind := .array items .., properties, .. } =>
      (s.exceeds (i + 1) && i < items.size + properties.size + mostHoles) ||
        (1024 ≤ i && i &&& (i - 1) = 0 && items.size = i && s.isTooHeavy r)
    | _ => false

end Store

end CollectionRunner.Script
