import CollectionRunner.Script.Exec
import CollectionRunner.Script.Bytes

namespace CollectionRunner.Script

def lengthKey : Key := .ofString "length"

/-- The most elements that an array may leave out before its next one is kept by itself. -/
def mostHoles : Nat := 4096

namespace Kind

def isArray : Kind → Bool
  | .array .. => true
  | _ => false

def isProxy : Kind → Bool
  | .proxy .. => true
  | _ => false

/-- The length of an array, and whether it may be changed. -/
def length? : Kind → Option (Nat × Bool)
  | .array _ length writable => some (length, writable)
  | _ => none

end Kind

namespace Obj

def listed? (o : Obj) (k : Key) : Option Property := (o.properties.find? (·.1 == k)).map (·.2)

/-- Puts a property in the place of the one of the same name, or after all others. -/
def put (k : Key) (p : Property) (o : Obj) : Obj :=
  match o.properties.findIdx? (·.1 == k) with
  | some i => { o with properties := o.properties.setIfInBounds i (k, p) }
  | none => { o with properties := o.properties.push (k, p) }

/-- Takes a property out of the list. -/
def drop (k : Key) (o : Obj) : Obj :=
  match o.properties.findIdx? (·.1 == k) with
  | some i => { o with properties := o.properties.eraseIdxIfInBounds i }
  | none => o

def isArray (o : Obj) : Bool := o.kind.isArray

/-- Takes an element out of an array's row. -/
def dropElement (i : Nat) (o : Obj) : Obj :=
  match o with
  | { kind := .array items length w, .. } =>
    { o with kind := .array (items.setIfInBounds i none) length w }
  | _ => o

/-- Whether an array keeps an element in its row: not if that would leave out too many before it, or
if the element is listed with the properties. -/
def keepsInRow (i : Nat) (o : Obj) : Bool :=
  match o.kind with
  | .array items .. => i ≤ items.size + mostHoles && (o.listed? (.index i)).isNone
  | _ => false

/-- Makes an array at least so long. -/
def lengthen (length : Nat) (o : Obj) : Obj :=
  match o with
  | { prototype, extensible, properties, hidden, kind := .array items before w } =>
    { prototype, extensible, properties, hidden, kind := .array items (max before length) w }
  | o => o

/-- Puts an element into an array's row. -/
def putInRow (i : Nat) (v : Value) (o : Obj) : Obj :=
  match o with
  | { prototype, extensible, properties, hidden, kind := .array items length w } =>
    if i < items.size then
      { prototype, extensible, properties, hidden,
        kind := .array (items.setIfInBounds i (some v)) (max length (i + 1)) w }
    else
      let filled := (List.range (i - items.size)).foldl (fun a _ => a.push none) items
      { prototype, extensible, properties, hidden,
        kind := .array (filled.push (some v)) (max length (i + 1)) w }
  | o => o

/-- Puts an element into an array. -/
def putElement (i : Nat) (v : Value) (o : Obj) : Obj :=
  if o.keepsInRow i then o.putInRow i v else (o.put (.index i) (.plain v)).lengthen (i + 1)

end Obj

/-- Whether a name is a number as it is written; a typed array has no other elements by it. -/
def Key.isNumeric : Key → Bool
  | .index _ => true
  | .text u => u == .ofString "-0" || u == .ofString (numberText (textNumber u))
  | .symbol _ => false

namespace Store

def obj (s : Store) (r : Ref) : Obj := s.objects.getD r {}

@[inline]
def modifyObj (r : Ref) (f : Obj → Obj) (s : Store) : Store :=
  { s with objects := s.objects.modify r f }

def allocate (o : Obj) (s : Store) : Ref × Store :=
  let r := s.objects.size
  (r, { s with objects := s.objects.push o })

def isCallable (s : Store) : Value → Bool
  | .object r =>
    match (s.obj r).kind with
    | .function _ | .native .. | .bound .. => true
    | .proxy _ _ callable _ => callable
    | _ => false
  | _ => false

/-- Whether `new` may be used with an object. -/
def constructs (s : Store) : Nat → Ref → Bool
  | 0, _ => false
  | n + 1, r =>
    match (s.obj r).kind with
    | .function c => c.code.info.constructs
    | .native _ isConstructor => isConstructor
    | .bound target .. => constructs s n target
    | .proxy _ _ _ constructible => constructible
    | _ => false

def isConstructor (s : Store) : Value → Bool
  | .object r => s.constructs s.objects.size r
  | _ => false

/-- An own property of an object that is no proxy. -/
def own? (s : Store) (r : Ref) (k : Key) : Option Property :=
  let o := s.obj r
  match o.kind with
  | .array items length w =>
    match k with
    | .index i =>
      match items.getD i none with
      | some v => some (.plain v)
      | none => o.listed? k
    | _ =>
      if k == lengthKey then
        some { slot := .data (.ofNat length) w, enumerable := false, configurable := false }
      else o.listed? k
  | .boxed (.text u) =>
    match k with
    | .index i =>
      if i < u.size then
        some { slot := .data (.text #[u.getD i 0]) false, configurable := false }
      else o.listed? k
    | _ => o.listed? k
  | .typed t buffer offset length =>
    match k with
    | .index i =>
      if i < length then
        match (s.obj buffer).kind with
        | .buffer bytes _ => some (.plain (t.read bytes (offset + i * t.width)))
        | _ => none
      else none
    | _ => if k.isNumeric then none else o.listed? k
  | _ => o.listed? k

/-- What a search along the prototypes comes to. -/
inductive Search where
  | missing
  | found (p : Property) (owner : Ref)
  | proxy (r : Ref)

/-- Searches an object and its prototypes for a property. -/
def searchFrom (s : Store) (k : Key) : Nat → Ref → Search
  | 0, _ => .missing
  | n + 1, r =>
    match s.own? r k with
    | some p => .found p r
    | none =>
      let o := s.obj r
      match o.kind, o.prototype with
      | .proxy .., _ => .proxy r
      | _, none => .missing
      | .typed .., some p => if k.isNumeric then .missing else searchFrom s k n p
      | _, some p => searchFrom s k n p

def search (s : Store) (r : Ref) (k : Key) : Search := s.searchFrom k (s.objects.size + 1) r

def indexKeys (o : Obj) : List Key :=
  let listed := o.properties.toList.filterMap fun (k, _) =>
    match k with
    | .index i => some i
    | _ => none
  let row := match o.kind with
    | .array items .. =>
      (List.range items.size).filter fun i => (items.getD i none).isSome
    | .boxed (.text u) => List.range u.size
    | .typed _ _ _ length => List.range length
    | _ => []
  (if listed.isEmpty then row else (row ++ listed).mergeSort).map .index

/-- The names of an object's own properties: indices in their order, other texts and symbols in the
order they were added. -/
def ownKeys (s : Store) (r : Ref) : List Key :=
  let o := s.obj r
  let texts := o.properties.toList.filterMap fun (k, _) =>
    match k with
    | .text _ => some k
    | _ => none
  let symbols := o.properties.toList.filterMap fun (k, _) =>
    match k with
    | .symbol _ => some k
    | _ => none
  let length := match o.kind with
    | .array .. => [lengthKey]
    | _ => []
  indexKeys o ++ length ++ texts ++ symbols

/-- Whether a symbol or object lies on the chain of prototypes. -/
def inherits (s : Store) (ancestor : Ref) : Nat → Ref → Bool
  | 0, _ => false
  | n + 1, r =>
    match (s.obj r).prototype with
    | some p => p == ancestor || inherits s ancestor n p
    | none => false

/-- Shortens an array as far as it goes: an element that is not configurable stays. -/
def truncate (r : Ref) (length : Nat) (s : Store) : Bool × Store :=
  let fixed := (s.obj r).properties.foldl (fun m (k, p) =>
    match k with
    | .index i => if length ≤ i && ! p.configurable then max m (i + 1) else m
    | _ => m) 0
  let length' := max length fixed
  (length' == length, s.modifyObj r fun o =>
    match o with
    | { prototype, extensible, properties, hidden, kind := .array items _ w } =>
      { prototype, extensible, hidden,
        properties :=
          if properties.isEmpty then properties
          else properties.filter fun (k, _) =>
            match k with
            | .index i => i < length'
            | _ => true
        kind := .array (items.shrink length') length' w }
    | o => o)

end Store

end CollectionRunner.Script
