import CollectionRunner.Url.Host

namespace CollectionRunner

/-- A URL in normal form. Its path starts with a slash unless it is opaque. -/
structure Url where
  scheme : String
  username : String := ""
  password : Option String := none
  host : Option String := none
  port : Option Nat := none
  path : String := ""
  query : Option String := none
  fragment : Option String := none
  deriving DecidableEq, Repr

namespace Url

/-- The text of a URL. A path that starts with two slashes is kept apart from a host. -/
def text (u : Url) : String :=
  let userinfo :=
    if u.username = "" && u.password.isNone then ""
    else u.username ++ (u.password.map (":" ++ ·)).getD "" ++ "@"
  let authority := match u.host with
    | some h => "//" ++ userinfo ++ h ++ (u.port.map fun p => ":" ++ toString p).getD ""
    | none => if u.path.startsWith "//" then "/." else ""
  u.scheme ++ ":" ++ authority ++ u.path ++ (u.query.map ("?" ++ ·)).getD "" ++
    (u.fragment.map ("#" ++ ·)).getD ""

/-- The port that a scheme stands for; schemes that have one are special. -/
def defaultPort? (scheme : String) : Option Nat :=
  [("http", 80), ("https", 443), ("ws", 80), ("wss", 443), ("ftp", 21)].lookup scheme

/-- How the scheme is treated. -/
inductive Kind where
  | special
  | file
  | other
  deriving DecidableEq

def kindOf (scheme : String) : Kind :=
  if scheme = "file" then .file else if (defaultPort? scheme).isSome then .special else .other

def isSlash (kind : Kind) (c : Char) : Bool := c == '/' || (c == '\\' && kind ≠ .other)

/-- Whether the character ends the part of a URL between its slashes and its path. -/
def endsAuthority (kind : Kind) (c : Char) : Bool := isSlash kind c || c == '?' || c == '#'

/-- The scheme in small letters and what follows its colon. -/
def splitScheme? (s : List Char) : Option (String × List Char) :=
  let isSchemeChar (c : Char) : Bool := c.isAlphanum || c == '+' || c == '-' || c == '.'
  match s with
  | c :: _ =>
    if ! c.isAlpha then none
    else match s.dropWhile isSchemeChar with
      | ':' :: rest => some ((String.ofList (s.takeWhile isSchemeChar)).toLower, rest)
      | _ => none
  | [] => none

/-- User name and password before the last `@` of an authority, and what follows it. -/
def splitUserinfo (kind : Kind) (s : List Char) :
    Except ParseError (String × Option String × List Char) :=
  let authority := s.takeWhile (! endsAuthority kind ·)
  if ! authority.contains '@' then .ok ("", none, s)
  else
    let userinfo := ((authority.reverse.dropWhile (· ≠ '@')).drop 1).reverse
    let rest := s.drop (userinfo.length + 1)
    if userinfo.isEmpty && (rest.head?.map (endsAuthority kind)).getD false then .error .emptyHost
    else
      let name := userinfo.takeWhile (· ≠ ':')
      let secret := (userinfo.drop name.length).drop 1
      .ok (String.ofList (encode inUserinfo name),
        if secret.isEmpty then none else some (String.ofList (encode inUserinfo secret)), rest)

/-- The characters of a host, up to a colon outside brackets. -/
def takeHost (kind : Kind) (inside : Bool) : List Char → List Char
  | [] => []
  | c :: rest =>
    if (c == ':' && ! inside) || endsAuthority kind c then []
    else c :: takeHost kind (c == '[' || (inside && c ≠ ']')) rest

/-- A port and what follows it; the one that the scheme stands for is left out. -/
def takePort (kind : Kind) (scheme : String) (s : List Char) :
    Except ParseError (Option Nat × List Char) :=
  let digits := s.takeWhile Char.isDigit
  let rest := s.dropWhile Char.isDigit
  let value := digits.foldl (fun n c => n * 10 + (c.toNat - 48)) 0
  let goesOn := (rest.head?.map fun c => ! (endsAuthority kind c || c == '\\')).getD false
  if 65535 < value || goesOn then
    .error .invalidPort
  else
    .ok (if digits.isEmpty || defaultPort? scheme == some value then none else some value, rest)

def isDoubleDot (s : List Char) : Bool :=
  ["..", "%2e%2e", ".%2e", "%2e."].contains (String.ofList s).toLower

def isSingleDot (s : List Char) : Bool := [".", "%2e"].contains (String.ofList s).toLower

/-- Whether a segment is the letter of a drive, above which no path leads. -/
def isDrive : List Char → Bool
  | [c, mark] => c.isAlpha && (mark == ':' || mark == '|')
  | _ => false

/-- Segments of a path, the last first, given those before and the segment being read. -/
def pathSegments (kind : Kind) (done : List (List Char)) (segment : List Char) :
    List Char → List (List Char)
  | [] => close done segment false
  | c :: rest =>
    if isSlash kind c then pathSegments kind (close done segment true) [] rest
    else pathSegments kind done (c :: segment) rest
where
  /-- Adds a segment, of which the points lead nowhere or upwards. -/
  close (done : List (List Char)) (segment : List Char) (slash : Bool) : List (List Char) :=
    let s := encode inPath segment.reverse
    if isDoubleDot s then
      let done := if (done.head?.map isDrive).getD false then done else done.drop 1
      if slash then done else [] :: done
    else if isSingleDot s then if slash then done else [] :: done
    else s :: done

/-- The path of a URL, which starts with a slash where the scheme is known, and with no more than one
where it leads to a file. -/
def pathText (kind : Kind) (s : List Char) : String :=
  let body := match s with
    | c :: rest => if isSlash kind c then rest else s
    | [] => []
  let segments := (pathSegments kind [] [] body).reverse
  let segments :=
    if kind = .file then
      match segments.dropWhile List.isEmpty with
      | [] => [[]]
      | segments => segments
    else segments
  if s.isEmpty && kind = .other then ""
  else String.join (segments.map fun seg => "/" ++ String.ofList seg)

/-- Path, query and fragment behind a host or a scheme. -/
def withTail (kind : Kind) (isOpaque : Bool) (u : Url) (s : List Char) : Url :=
  let path := s.takeWhile fun c => c ≠ '?' && c ≠ '#'
  let rest := s.drop path.length
  let query := match rest with
    | '?' :: q => some (q.takeWhile (· ≠ '#'))
    | _ => none
  let fragment := match rest.dropWhile (· ≠ '#') with
    | '#' :: f => some f
    | _ => none
  { u with
    path := if isOpaque then String.ofList (encode isControl path) else pathText kind path
    query := query.map fun q =>
      String.ofList (encode (if kind = .other then inQuery else inSpecialQuery) q)
    fragment := fragment.map fun f => String.ofList (encode inFragment f) }

/-- A URL from its authority on. -/
def afterSlashes (kind : Kind) (scheme : String) (s : List Char) : Except ParseError Url := do
  let (username, password, s) ← splitUserinfo kind s
  let host := takeHost kind false s
  let rest := s.drop host.length
  if host.isEmpty && kind = .special then throw .emptyHost
  let name ← if kind = .other then opaqueHost host else specialHost host
  if name = "" && (rest.head? == some ':' || username ≠ "" || password.isSome) then throw .emptyHost
  let (port, rest) ← match rest with
    | ':' :: rest => takePort kind scheme rest
    | rest => pure (none, rest)
  return withTail kind false { scheme, username, password, host := some name, port } rest

/-- A URL of a file; its host may be missing, and so it is for the local one. -/
def fileUrl (s : List Char) : Except ParseError Url := do
  match s with
  | a :: b :: rest =>
    if isSlash .file a && isSlash .file b then
      let host := rest.takeWhile (! endsAuthority .file ·)
      let host := if isDrive host then [] else host
      let name ← if host.isEmpty then pure "" else specialHost host
      let host' := if name = "localhost" then "" else name
      return withTail .file false { scheme := "file", host := some host' }
        (rest.drop host.length)
    else return withTail .file false { scheme := "file", host := some "" } s
  | s => return withTail .file false { scheme := "file", host := some "" } s

/-- Controls and spaces at the ends, and tabs and line breaks anywhere, are no part of a URL. -/
def cleaned (s : String) : List Char :=
  let ends (c : Char) : Bool := c.toNat ≤ 0x20
  (((s.toList.dropWhile ends).reverse.dropWhile ends).reverse).filter fun c =>
    c ≠ '\t' && c ≠ '\n' && c ≠ '\r'

def parse (s : String) : Except ParseError Url :=
  match splitScheme? (cleaned s) with
  | none => .error .relativeWithoutBase
  | some (scheme, rest) =>
    match kindOf scheme with
    | .special => afterSlashes .special scheme (rest.dropWhile (isSlash .special))
    | .file => fileUrl rest
    | .other =>
      match rest with
      | '/' :: '/' :: rest => afterSlashes .other scheme rest
      | '/' :: _ => .ok (withTail .other false { scheme } rest)
      | rest => .ok (withTail .other true { scheme } rest)

/-- The URL without user name and password, if they are text. -/
def withoutCredentials (u : Url) : Url :=
  let readable := (decode? u.username.toList).isSome &&
    (u.username ≠ "" || (u.password.map fun p => (decode? p.toList).isSome).getD true)
  if u.host.isSome && readable then { u with username := "", password := none } else u

end Url

end CollectionRunner
