import CollectionRunner.Url.DomainName
import CollectionRunner.Url.Percent

namespace CollectionRunner.Url

/-- Why a text is not a URL. -/
inductive ParseError where
  | emptyHost
  | idna
  | invalidPort
  | invalidIpv4Address
  | invalidIpv6Address
  | invalidDomainCharacter
  | relativeWithoutBase
  deriving DecidableEq, Repr

def ParseError.message : ParseError → String
  | .emptyHost => "empty host"
  | .idna => "invalid international domain name"
  | .invalidPort => "invalid port number"
  | .invalidIpv4Address => "invalid IPv4 address"
  | .invalidIpv6Address => "invalid IPv6 address"
  | .invalidDomainCharacter => "invalid domain character"
  | .relativeWithoutBase => "relative URL without a base"

/-- What stands between the given characters. -/
def splitOn (mark : Char) (part : List Char) : List Char → List (List Char)
  | [] => [part.reverse]
  | c :: rest =>
    if c = mark then part.reverse :: splitOn mark [] rest else splitOn mark (c :: part) rest

def domainToAscii? (bytes : List UInt8) : Option (List Char) := do
  DomainName.toAscii? (← String.fromUTF8? ⟨bytes.toArray⟩)

/-- A number in base 8, 10 or 16; `some none` when it exceeds 32 bits. -/
def ipv4Number? (s : List Char) : Option (Option Nat) :=
  let read (base : Nat) (digits : List Char) : Option (Option Nat) :=
    if digits.isEmpty then some (some 0)
    else
      let step (acc : Option Nat) (c : Char) : Option Nat := do
        let n ← acc
        let d ← hexDigit? c
        if d < base then return n * base + d else none
      match digits.foldl step (some 0) with
      | none => none
      | some n => some (if n < Nat.pow 2 32 then some n else none)
  match s with
  | [] => none
  | '0' :: 'x' :: rest | '0' :: 'X' :: rest => read 16 rest
  | '0' :: c :: rest => read 8 (c :: rest)
  | digits => read 10 digits

/-- Whether the last label is a number, so that the host must be an address. -/
def endsInNumber (s : List Char) : Bool :=
  let labels := (splitOn '.' [] s).reverse
  let last := match labels with
    | [] :: rest => rest.head?
    | labels => labels.head?
  match last with
  | none => false
  | some label => (! label.isEmpty && label.all Char.isDigit) || (ipv4Number? label).isSome

/-- Numbers of the address, with the last one filling the bytes that are left. -/
def ipv4Address? (s : List Char) : Option Nat := do
  let labels := splitOn '.' [] s
  let labels := if labels.getLast? == some [] then labels.dropLast else labels
  if 4 < labels.length then none
  let numbers ← labels.mapM fun l => (ipv4Number? l).join
  let last ← numbers.getLast?
  let others := numbers.dropLast
  if others.any (255 < ·) || Nat.pow 256 (4 - others.length) ≤ last then none
  return last + (others.zipIdx.map fun (n, i) => n * Nat.pow 256 (3 - i)).foldl (· + ·) 0

def ipv4Text (n : Nat) : String :=
  String.intercalate "." ([3, 2, 1, 0].map fun i => toString (n / Nat.pow 256 i % 256))

/-- The value of up to four hexadecimal digits. -/
def piece? (s : List Char) : Option Nat :=
  if s.isEmpty || 4 < s.length then none
  else s.foldl (fun acc c => do return (← acc) * 16 + (← hexDigit? c)) (some 0)

/-- An address of version 4 at the end of one of version 6, in two pieces. -/
def embedded? (s : List Char) : Option (List Nat) := do
  let parts := splitOn '.' [] s
  if parts.length ≠ 4 then none
  let bytes ← parts.mapM fun p =>
    let isLong := 3 < p.length || (1 < p.length && p.head? == some '0')
    if p.isEmpty || isLong || ! p.all Char.isDigit then none
    else (String.ofList p).toNat?.filter (· ≤ 255)
  match bytes with
  | [a, b, c, d] => some [a * 256 + b, c * 256 + d]
  | _ => none

/-- Pieces between colons; only the last of them may be an address of version 4. -/
def pieces? : List (List Char) → Option (List Nat)
  | [] => some []
  | [last] => if last.contains '.' then embedded? last else (piece? last).map ([·])
  | p :: rest => do return (← piece? p) :: (← pieces? rest)

/-- Splits at the first two colons that stand together. -/
def splitGap : List Char → Option (List Char × List Char)
  | [] => none
  | ':' :: ':' :: rest => some ([], rest)
  | c :: rest => (splitGap rest).map fun (a, b) => (c :: a, b)

def ipv6Address? (s : List Char) : Option (List Nat) :=
  let run (s : List Char) : Option (List Nat) :=
    if s.isEmpty then some [] else pieces? (splitOn ':' [] s)
  match splitGap s with
  | none => (run s).filter (·.length = 8)
  | some (before, after) => do
    if before.contains '.' then none
    let left ← run before
    let right ← run after
    if 8 ≤ left.length + right.length then none
    return left ++ List.replicate (8 - left.length - right.length) 0 ++ right

/-- The longest run of zeros, from its first piece on: its start and its length, 2 at least. -/
def longestGap (pieces : List Nat) : Nat × Nat :=
  (List.range 8).foldl (fun best start =>
    let length := ((pieces.drop start).takeWhile (· = 0)).length
    if 2 ≤ length && best.2 < length then (start, length) else best) (8, 0)

def hexText (n : Nat) : String := String.ofList (Nat.toDigits 16 n)

def ipv6Text (pieces : List Nat) : String :=
  let (start, length) := longestGap pieces
  let text (ps : List Nat) : String := String.intercalate ":" (ps.map hexText)
  if length = 0 then text pieces
  else text (pieces.take start) ++ "::" ++ text (pieces.drop (start + length))

/-- An address of version 6 in its brackets, given what follows the first one. -/
def bracketed (rest : List Char) : Except ParseError String :=
  if rest.getLast? == some ']' then
    match ipv6Address? rest.dropLast with
    | some pieces => .ok ("[" ++ ipv6Text pieces ++ "]")
    | none => .error .invalidIpv6Address
  else .error .invalidIpv6Address

/-- The host of a URL whose scheme is known. -/
def specialHost (s : List Char) : Except ParseError String :=
  match s with
  | '[' :: rest => bracketed rest
  | s =>
    match domainToAscii? (decodeBytes s) with
    | none => .error .idna
    | some [] => .error .emptyHost
    | some domain =>
      if endsInNumber domain then
        match ipv4Address? domain with
        | some n => .ok (ipv4Text n)
        | none => .error .invalidIpv4Address
      else .ok (String.ofList domain)

/-- The host of any other URL, which is kept as it stands. -/
def opaqueHost (s : List Char) : Except ParseError String :=
  match s with
  | '[' :: rest => bracketed rest
  | s =>
    if s.any fun c => "\x00\t\n\r #/:<>?@[\\]^|".toList.contains c then
      .error .invalidDomainCharacter
    else .ok (String.ofList (encode isControl s))

end CollectionRunner.Url
