namespace CollectionRunner.Url.Punycode

/-- The threshold of the digit at a position, given the bias. -/
def threshold (bias k : Nat) : Nat := if k ≤ bias then 1 else min (k - bias) 26

def adaptFrom : Nat → Nat → Nat → Nat
  | 0, k, delta => k + 36 * delta / (delta + 38)
  | fuel + 1, k, delta =>
    if 455 < delta then adaptFrom fuel (k + 36) (delta / 35) else k + 36 * delta / (delta + 38)

/-- The bias after a difference was written. -/
def adapt (delta count : Nat) (first : Bool) : Nat :=
  let delta := if first then delta / 700 else delta / 2
  adaptFrom 32 0 (delta + delta / count)

def digit (n : Nat) : Char := if n < 26 then Char.ofNat (97 + n) else Char.ofNat (22 + n)

def digitValue? (c : Char) : Option Nat :=
  if c.isLower then some (c.toNat - 97)
  else if c.isUpper then some (c.toNat - 65)
  else if c.isDigit then some (c.toNat - 22)
  else none

/-- A number in digits of varying weight. -/
def writeNumber (bias : Nat) : Nat → Nat → Nat → List Char
  | 0, _, _ => []
  | fuel + 1, k, q =>
    let t := threshold bias k
    if q < t then [digit q]
    else digit (t + (q - t) % (36 - t)) :: writeNumber bias fuel (k + 36) ((q - t) / (36 - t))

structure State where
  delta : Nat
  bias : Nat
  done : Nat
  out : List Char

/-- Goes through the label for one code point and writes its occurrences. -/
def writePoint (basic point : Nat) (label : List Nat) (s : State) : State :=
  label.foldl (fun s c =>
    if c < point then { s with delta := s.delta + 1 }
    else if c = point then
      { delta := 0
        bias := adapt s.delta (s.done + 1) (s.done == basic)
        done := s.done + 1
        out := s.out ++ writeNumber s.bias 64 36 s.delta }
    else s) s

def encodeFrom (basic : Nat) (label : List Nat) : Nat → Nat → State → List Char
  | 0, _, s => s.out
  | fuel + 1, point, s =>
    match (label.filter (point ≤ ·)).min? with
    | none => s.out
    | some next =>
      let s := { s with delta := s.delta + (next - point) * (s.done + 1) }
      let s := writePoint basic next label s
      encodeFrom basic label fuel (next + 1) { s with delta := s.delta + 1 }

/-- The ASCII form of a label without its mark. -/
def encode (label : List Char) : List Char :=
  let ascii := label.filter (·.toNat < 128)
  let start := if ascii.isEmpty then [] else ascii ++ ['-']
  encodeFrom ascii.length (label.map Char.toNat) label.length 128 ⟨0, 72, ascii.length, start⟩

/-- One number of varying weight, and the digits after it. -/
def readNumber (bias : Nat) : Nat → Nat → Nat → List Char → Option (Nat × List Char)
  | 0, _, _, _ => none
  | _, _, _, [] => none
  | fuel + 1, k, weight, c :: rest => do
    let d ← digitValue? c
    let t := threshold bias k
    if d < t then return (d * weight, rest)
    let (n, rest) ← readNumber bias fuel (k + 36) (weight * (36 - t)) rest
    return (d * weight + n, rest)

def decodeFrom : Nat → Nat → Nat → Nat → List Nat → List Char → Option (List Nat)
  | _, _, _, _, out, [] => some out
  | 0, _, _, _, _, _ => none
  | fuel + 1, point, index, bias, out, digits => do
    let (delta, rest) ← readNumber bias 64 36 1 digits
    let count := out.length + 1
    let place := index + delta
    let point := point + place / count
    if 0x10FFFF < point then none
    let at' := place % count
    decodeFrom fuel point (at' + 1) (adapt delta count (index == 0))
      (out.take at' ++ [point] ++ out.drop at') rest

/-- The code points of a label's ASCII form without its mark. -/
def decode? (label : List Char) : Option (List Nat) :=
  let tail := (label.reverse.takeWhile (· ≠ '-')).reverse
  let basic := label.take (label.length - tail.length - 1)
  let marked := decodeFrom (label.length + 1) 128 0 72 (basic.map Char.toNat) tail
  if tail.length = label.length then decodeFrom (label.length + 1) 128 0 72 [] label else marked

end CollectionRunner.Url.Punycode
