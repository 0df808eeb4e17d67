namespace CollectionRunner.Files

def isAbsolute (path : String) : Bool := path.toList.head? == some '/'

/-- The second path as seen from the first one. -/
def join (base path : String) : String :=
  if isAbsolute path then path
  else if base = "" || base.toList.getLast? == some '/' then base ++ path
  else base ++ "/" ++ path

/-- A reversed path without the slashes and single points at its end. -/
def dropIdle : List Char → List Char
  | '/' :: rest => dropIdle rest
  | '.' :: '/' :: rest => dropIdle ('/' :: rest)
  | path => path

/-- Everything before the last part of a path; `none` when there is no part. -/
def parent? (path : String) : Option String :=
  let before := (dropIdle path.toList.reverse).dropWhile (· ≠ '/')
  let kept := dropIdle before
  if (dropIdle path.toList.reverse).isEmpty then none
  else if kept.isEmpty && ! before.isEmpty then some "/"
  else some (String.ofList kept.reverse)

/-- The last part of a path, unless it leads upwards. -/
def fileName? (path : String) : Option String :=
  let name := (dropIdle path.toList.reverse).takeWhile (· ≠ '/')
  if name.isEmpty || name == ['.', '.'] then none else some (String.ofList name.reverse)

/-- A file's name without its last extension. A point in front of the name starts none. -/
def stem (name : String) : String :=
  match (name.toList.reverse.dropWhile (· ≠ '.')).drop 1 with
  | [] => name
  | rest => String.ofList rest.reverse

/-- What stands between the slashes of a path. -/
def partsFrom (part : List Char) : List Char → List String
  | [] => [String.ofList part.reverse]
  | '/' :: rest => String.ofList part.reverse :: partsFrom [] rest
  | c :: rest => partsFrom (c :: part) rest

/-- The parts of a path that lead somewhere. -/
def parts (path : String) : List String :=
  (partsFrom [] path.toList).filter fun p => p ≠ "" && p ≠ "."

end CollectionRunner.Files
