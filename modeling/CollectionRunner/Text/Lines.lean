namespace CollectionRunner.Text

/-- The line whose characters are given in reverse, without one carriage return at its end. -/
def endedLine : List Char → List Char
  | '\r' :: r => r.reverse
  | l => l.reverse

/-- Lines of the text, of which `line` (in reverse) is already read. -/
def linesFrom (line : List Char) : List Char → List (List Char)
  | [] => if line.isEmpty then [] else [line.reverse]
  | '\n' :: r => endedLine line :: linesFrom [] r
  | c :: r => linesFrom (c :: line) r

def lines (s : String) : List String := (linesFrom [] s.toList).map String.ofList

end CollectionRunner.Text
