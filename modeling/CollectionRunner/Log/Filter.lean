import CollectionRunner.Log.Record
import CollectionRunner.Text.Blank
import CollectionRunner.Text.Letter

namespace CollectionRunner.Log

/-- A field that a directive asks for; one that asks for a value too looks at spans only. -/
structure FieldCondition where
  name : String
  hasValue : Bool
  deriving DecidableEq, Repr

/-- Records whose target begins with the given text and that carry the fields are written up to a
rank, none at rank zero. A directive for a span says nothing about records outside of it. -/
structure Directive where
  target : Option String := none
  span : Option String := none
  fields : List FieldCondition := []
  rank : Nat := Level.trace.rank
  deriving DecidableEq, Repr

/-- A level's number, after a plus sign or without one. -/
def rankNumbered? (s : String) : Option Nat :=
  let ds := match s.toList with
    | '+' :: ds => ds
    | ds => ds
  if ds.isEmpty || ! ds.all Char.isDigit then none
  else
    let n := ds.foldl (fun n d => 10 * n + (d.toNat - 48)) 0
    if n ≤ Level.trace.rank then some n else none

/-- The rank that a level is set by: its name in letters of any case, or its number. -/
def rankNamed? (s : String) : Option Nat :=
  (rankNumbered? s).or
    ([("OFF", 0), ("ERROR", 1), ("WARN", 2), ("INFO", 3), ("DEBUG", 4), ("TRACE", 5)].lookup
      s.toUpper)

namespace Directive

/-- The part of a directive that is being read, with the place where it began. -/
inductive Part where
  | start
  | word (first : Nat)
  | span (first : Nat)
  | field (first : Nat)
  | afterFields
  | afterSpan
  | level (first : Nat)
  deriving DecidableEq, Repr

/-- Some characters of a text. -/
def slice (text : List Char) (first last : Nat) : String :=
  String.ofList ((text.take last).drop first)

def addField (d : Directive) (s : String) : Option Directive :=
  if s = "" then none
  else
    let name := String.ofList (s.toList.takeWhile (· ≠ '='))
    some { d with fields := d.fields ++ [⟨name, s.contains '='⟩] }

/-- Reads the `i`-th character. -/
def readChar (text : List Char) (i : Nat) (c : Char) : Part × Directive → Option (Part × Directive)
  | (.start, d) =>
    if c = '[' then some (.span (i + 1), d)
    else if c = '-' || c = ':' || c = '_' || Text.isAlphanumeric c then some (.word i, d)
    else none
  | (.word first, d) =>
    if c = '=' then some (.level (i + 1), { d with target := some (slice text first i) })
    else if c = '[' then some (.span (i + 1), { d with target := some (slice text first i) })
    else some (.word first, d)
  | (.span first, d) =>
    if c = ']' then some (.afterSpan, { d with span := some (slice text first i) })
    else if c = '\x7b' then
      let name := slice text first i
      some (.field (i + 1), { d with span := if name = "" then none else some name })
    else some (.span first, d)
  | (.field first, d) =>
    if c = '\x7d' then (d.addField (slice text first i)).map fun d => (.afterFields, d)
    else some (.field first, d)
  | (.afterFields, d) => if c = ']' then some (.afterSpan, d) else none
  | (.afterSpan, d) => if c = '=' then some (.level (i + 1), d) else none
  | (.level first, d) => some (.level first, d)

def readChars (text : List Char) :
    List Char → Nat → Part × Directive → Option (Part × Directive)
  | [], _, r => some r
  | c :: rest, i, r => (readChar text i c r).bind (readChars text rest (i + 1))

/-- Reads `level` or `target[span\x7bfield\x7d]=level`, of which every part may be missing. Without a
level everything is written. Blanks around a directive are not read, but its parts are taken from the
text with them. -/
def ofText? (s : String) : Option Directive := do
  let text := s.toList
  match ← readChars text (Text.trimChars text) 0 (.start, {}) with
  | (.word first, d) =>
    let word := slice text first text.length
    match rankNamed? word with
    | some rank => some { d with rank }
    | none => some { d with target := some word }
  | (.level first, d) =>
    let level := slice text first text.length
    if level = "" then some d else (rankNamed? level).map fun rank => { d with rank }
  | (.afterSpan, d) => some d
  | _ => none

/-- Whether a directive is about records in no span. -/
def isPlain (d : Directive) : Bool := d.span.isNone && ! d.fields.any (·.hasValue)

def covers (d : Directive) (r : Record) : Bool :=
  (d.target.getD "").toList.isPrefixOf r.target.toList &&
    d.fields.all fun f => f.name == "message" || r.fields.any (·.1 == f.name)

/-- What makes one directive more specific than another: a longer target, then more fields, and then
the order of their letters. -/
def specificity (d : Directive) : Nat × Nat × String × List String :=
  ((d.target.map fun t => t.utf8ByteSize + 1).getD 0, d.fields.length, d.target.getD "",
    d.fields.map (·.name))

def isLessSpecific (d e : Directive) : Bool :=
  let (a, b, c, f) := d.specificity
  let (a', b', c', f') := e.specificity
  a < a' || (a = a' && (b < b' || (b = b' && (c < c' || (c = c' && f < f')))))

end Directive

/-- What stands between the commas of a text. -/
def clausesFrom (clause : List Char) : List Char → List String
  | [] => [String.ofList clause.reverse]
  | ',' :: rest => String.ofList clause.reverse :: clausesFrom [] rest
  | c :: rest => clausesFrom (c :: clause) rest

/-- Directives, of which the most specific one decides on a record, and the last one among those as
specific. -/
structure Filter where
  directives : List Directive
  deriving DecidableEq, Repr

namespace Filter

/-- Reads directives with commas between them; without any, errors are written. -/
def ofText? (s : String) : Option Filter :=
  let clauses := (clausesFrom [] s.toList).filter (· ≠ "")
  if clauses.isEmpty then some ⟨[{ rank := Level.error.rank }]⟩
  else (clauses.mapM Directive.ofText?).map (⟨·⟩)

/-- Warnings are written, or more with more verbosity. -/
def ofVerbosity : Nat → Filter
  | 0 => ⟨[{ rank := Level.warn.rank }]⟩
  | 1 => ⟨[{ rank := Level.debug.rank }]⟩
  | _ => ⟨[{ rank := Level.trace.rank }]⟩

/-- The filter that a setting describes, or else the one of the verbosity. -/
def choose (setting : Option String) (verbosity : Nat) : Filter :=
  (setting.bind ofText?).getD (ofVerbosity verbosity)

/-- The directive that decides on a record. -/
def directiveFor? (f : Filter) (r : Record) : Option Directive :=
  (f.directives.filter fun d => d.isPlain && d.covers r).foldl
    (fun best d =>
      match best with
      | some b => if d.isLessSpecific b then some b else some d
      | none => some d)
    none

/-- The rank up to which records like one are written. -/
def rankFor (f : Filter) (r : Record) : Nat := ((f.directiveFor? r).map (·.rank)).getD 0

def admits (f : Filter) (r : Record) : Bool := r.level.rank ≤ f.rankFor r

end Filter

end CollectionRunner.Log
