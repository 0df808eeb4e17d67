import CollectionRunner.Collection.Model

namespace CollectionRunner

/-- The folder of the given name among items, the first of them. -/
def folderNamed? (name : String) (items : List Item) : Option Item :=
  items.find? fun i => i.isFolder && i.name == name

/-- Folders that the names lead through, outermost first, as far as there are such folders. -/
def folderChainFrom : List Item → List String → List Item
  | _, [] => []
  | items, name :: names =>
    match folderNamed? name items with
    | none => []
    | some folder => folder :: folderChainFrom folder.children names

namespace Collection

def folderChain (c : Collection) (breadcrumb : List String) : List Item :=
  folderChainFrom c.items breadcrumb

/-- The items at the end of the breadcrumb, if each of its names is a folder. -/
def level? (c : Collection) (breadcrumb : List String) : Option (List Item) :=
  let chain := c.folderChain breadcrumb
  if chain.length = breadcrumb.length then
    some ((chain.getLast?.map Item.children).getD c.items)
  else none

/-- The request of the given name in the folder that the breadcrumb leads to. -/
def findRequest? (c : Collection) (breadcrumb : List String) (name : String) : Option Item := do
  let items ← c.level? breadcrumb
  items.find? fun i => i.isRequest && i.name == name

end Collection

mutual

/-- Requests of an item inside the given folders, in the order of the tree. -/
def Item.listing (path : List String) : Item → List (List String × Item)
  | ⟨name, some items, _, _, _⟩ => listingOf (path ++ [name]) items
  | i@⟨_, none, some _, _, _⟩ => [(path, i)]
  | ⟨_, none, none, _, _⟩ => []

def listingOf (path : List String) : List Item → List (List String × Item)
  | [] => []
  | i :: rest => i.listing path ++ listingOf path rest

end

/-- Every request of the collection with the names of the folders around it. -/
def Collection.requests (c : Collection) : List (List String × Item) := listingOf [] c.items

/-- Folder names and a request's name as one text. -/
def joinPath (breadcrumb : List String) (name : String) : String :=
  String.intercalate "/" (breadcrumb ++ [name])

end CollectionRunner
