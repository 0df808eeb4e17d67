import CollectionRunner.Dotenv.Line

namespace CollectionRunner.Dotenv

/-- Where a line stands with respect to quotes, escapes and blanks. -/
inductive Joint where
  | complete
  | blank
  | escape
  | strong
  | strongEscape
  | weak
  | weakEscape
  deriving DecidableEq, Repr

/-- One character further, outside quotes. -/
def Joint.opened (c : Char) : Joint :=
  if c == '\\' then .escape
  else if c == '"' then .weak
  else if c == '\'' then .strong
  else .complete

/-- One character further; `none` where a comment starts. -/
def Joint.next (j : Joint) (c : Char) : Option Joint :=
  match j with
  | .blank => if c == '#' then none else some (.opened c)
  | .escape => some .complete
  | .complete =>
    if Text.isBlank c && c ≠ '\n' && c ≠ '\r' then some .blank else some (.opened c)
  | .weak => some (if c == '\\' then .weakEscape else if c == '"' then .complete else .weak)
  | .weakEscape => some .weak
  | .strong => some (if c == '\\' then .strongEscape else if c == '\'' then .complete else .strong)
  | .strongEscape => some .strong

/-- What a physical line adds to a logical one: its characters up to a comment, in reverse, and
whether there is one. -/
def scanLine (j : Joint) (out : List Char) : List Char → Joint × List Char × Bool
  | [] => (j, out, false)
  | c :: rest =>
    match j.next c with
    | none => (j, out, true)
    | some j => scanLine j (c :: out) rest

/-- Physical lines of a text with their line feeds. -/
def physicalLines (line : List Char) : List Char → List (List Char)
  | [] => if line.isEmpty then [] else [line.reverse]
  | '\n' :: rest => ('\n' :: line).reverse :: physicalLines [] rest
  | c :: rest => physicalLines (c :: line) rest

/-- A reversed line without the line feed at its end, and without a carriage return before that. -/
def dropEnding : List Char → List Char
  | '\n' :: '\r' :: rest => rest
  | '\n' :: rest => rest
  | line => line

def isComment (reversed : List Char) : Bool :=
  (reversed.reverse.dropWhile Text.isBlank).head? == some '#'

/-- Logical lines, given the start of the one being read (in reverse) and where it stands. -/
def logicalLines (j : Joint) (line : List Char) : List (List Char) → List (Except LineError String)
  | [] =>
    if j = .complete then []
    else
      let text := String.ofList line.reverse
      [.error ⟨text, text.utf8ByteSize⟩]
  | p :: rest =>
    if isComment (p.reverse ++ line) then .ok "" :: logicalLines .complete [] rest
    else
      let (j, out, comment) := scanLine j line p
      if comment then .ok (String.ofList out.reverse) :: logicalLines .complete [] rest
      else if j = .complete then
        .ok (String.ofList (dropEnding out).reverse) :: logicalLines .complete [] rest
      else logicalLines j out rest

/-- The assignments of logical lines in order, up to the first line that is none. -/
def assignments (assigned : Assigned) :
    List (Except LineError String) → List (Except LineError (String × String))
  | [] => []
  | .error e :: _ => [.error e]
  | .ok line :: rest =>
    match parseLine assigned line with
    | .error e => [.error e]
    | .ok none => assignments assigned rest
    | .ok (some (key, value)) => .ok (key, value) :: assignments ((key, value) :: assigned) rest

/-- What a dotenv text assigns, in order; a line that cannot be read ends it. -/
def parse (text : String) : List (Except LineError (String × String)) :=
  assignments [] (logicalLines .complete [] (physicalLines [] text.toList))

end CollectionRunner.Dotenv
