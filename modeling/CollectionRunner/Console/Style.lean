namespace CollectionRunner.Console

inductive Style where
  | bold
  | dimmed
  | red
  | green
  | yellow
  | cyan
  | boldRed
  deriving DecidableEq, Repr

/-- The parameters that select a style. -/
def Style.parameters : Style → String
  | .bold => "1"
  | .dimmed => "2"
  | .red => "31"
  | .green => "32"
  | .yellow => "33"
  | .cyan => "36"
  | .boldRed => "1;31"

/-- The sequence that switches a style on. -/
def Style.opening (s : Style) : String := "\x1b[" ++ s.parameters ++ "m"

/-- The sequence that ends every style. -/
def closing : String := "\x1b[0m"

/-- A stretch of text in one style, filled with blanks up to a width. -/
structure Piece where
  text : String
  style : Option Style := none
  width : Nat := 0
  deriving DecidableEq, Repr

namespace Piece

def plain (text : String) : Piece := { text }

def fill (width : Nat) (s : String) : String :=
  s ++ String.ofList (List.replicate (width - s.length) ' ')

/-- The text to print. Without colours a style has no effect; with colours it goes on after every
place in the text that ends all styles. -/
def render (colours : Bool) (p : Piece) : String :=
  match p.style with
  | some style =>
    if colours then
      style.opening ++ fill p.width (p.text.replace closing (closing ++ style.opening)) ++ closing
    else fill p.width p.text
  | none => fill p.width p.text

end Piece

/-- The line that pieces make. -/
def renderLine (colours : Bool) (pieces : List Piece) : String :=
  String.join (pieces.map (·.render colours)) ++ "\n"

end CollectionRunner.Console
