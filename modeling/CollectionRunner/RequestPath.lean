import CollectionRunner.Collection.Tree
import CollectionRunner.Text.Blank

namespace CollectionRunner.RequestPath

/-- What stands between the slashes. -/
def partsFrom (part : List Char) : List Char → List (List Char)
  | [] => [part.reverse]
  | '/' :: rest => part.reverse :: partsFrom [] rest
  | c :: rest => partsFrom (c :: part) rest

/-- The parts that are left when blanks at their ends are dropped. -/
def parts (path : String) : List String :=
  (((partsFrom [] path.toList).map Text.trimChars).filter (! ·.isEmpty)).map String.ofList

/-- Folder names and the request's name; `none` when no part is left. -/
def split? (path : String) : Option (List String × String) :=
  match (parts path).reverse with
  | [] => none
  | name :: folders => some (folders.reverse, name)

/-- What is said about a path that names nothing. -/
def invalidMessage (path : String) : String := "invalid request path '" ++ path ++ "'"

end CollectionRunner.RequestPath
