import CollectionRunner.Collection.Model
import CollectionRunner.Json.Decode

namespace CollectionRunner

open Json

/-- Lines of a script or parts of an address: nothing for null, the lines of a string, or a list. -/
def Decode.parts : Decoder (List String)
  | .null _ => .ok []
  | n => Decoder.variants "Parts" (fun n => match n with
      | .string _ (.ok s) => some (Text.lines s)
      | n => (Decoder.list Decoder.string n).toOption) n

def Variable.decode : Decoder Variable :=
  Decoder.record "VariableEntry" ["key"]
    [("key", fun v n => do return { v with key := ← Decoder.string n }),
     ("value", fun v n => do return { v with value := ← Decoder.scalarText n }),
     ("enabled", fun v n => do return { v with enabled := ← Decoder.bool n }),
     ("type", fun v n => do return { v with kind := ← Decoder.option Decoder.string n })]
    {}

def Header.decode : Decoder Header :=
  Decoder.record "Header" []
    [("key", fun h n => do return { h with key := ← Decoder.string n }),
     ("value", fun h n => do return { h with value := ← Decoder.string n }),
     ("disabled", fun h n => do return { h with disabled := ← Decoder.bool n })]
    {}

def QueryParameter.decode : Decoder QueryParameter :=
  Decoder.record "QueryParam" []
    [("key", fun q n => do return { q with key := ← Decoder.string n }),
     ("value", fun q n => do return { q with value := ← Decoder.scalarText n }),
     ("disabled", fun q n => do return { q with disabled := ← Decoder.bool n })]
    {}

/-- A string is the address itself; an object has its parts. -/
def Address.decode : Decoder Address :=
  Decoder.variants "UrlRepr" fun n => match n with
    | .string _ (.ok s) => some { raw := s }
    | n => Decoder.fieldsOnly
      [("raw", fun a n => do return { a with raw := ← Decoder.string n }),
       ("host", fun a n => do return { a with host := ← Decode.parts n }),
       ("path", fun a n => do return { a with path := ← Decode.parts n }),
       ("query", fun a n => do return { a with query := ← Decoder.list QueryParameter.decode n })]
      {} n

def Body.decode : Decoder Body :=
  Decoder.record "Body" []
    [("mode", fun b n => do return { b with mode := ← Decoder.string n }),
     ("raw", fun b n => do return { b with raw := ← Decoder.option Decoder.string n })]
    {}

def Request.decode : Decoder Request :=
  Decoder.record "Request" []
    [("method", fun r n => do return { r with method := ← Decoder.string n }),
     ("header", fun r n => do return { r with headers := ← Decoder.list Header.decode n }),
     ("body", fun r n => do return { r with body := ← Decoder.option Body.decode n }),
     ("url", fun r n => do return { r with address := ← Address.decode n })]
    {}

def Script.decode : Decoder Script :=
  Decoder.record "Script" []
    [("exec", fun s n => do return { s with lines := ← Decode.parts n }),
     ("type", fun s n => do return { s with kind := ← Decoder.option Decoder.string n })]
    {}

def Event.decode : Decoder Event :=
  Decoder.record "Event" []
    [("listen", fun e n => do return { e with listen := ← Decoder.string n }),
     ("script", fun e n => do return { e with script := ← Script.decode n })]
    {}

def Info.decode : Decoder Info :=
  Decoder.record "CollectionInfo" []
    [("name", fun i n => do return { i with name := ← Decoder.string n }),
     ("description", fun i n => do
       return { i with description := ← Decoder.option Decoder.string n }),
     ("schema", fun i n => do return { i with schema := ← Decoder.option Decoder.string n })]
    {}

/-- An item whose folders nest at most as deep as the first argument says. -/
def Item.decodeWithin : Nat → Decoder Item
  | 0 => fun n => .error (n.wrongType "struct Item")
  | depth + 1 =>
    Decoder.record "Item" []
      [("name", fun i n => do return { i with name := ← Decoder.string n }),
       ("item", fun i n => do
         return { i with items := ← Decoder.option (Decoder.list (Item.decodeWithin depth)) n }),
       ("request", fun i n => do return { i with request := ← Decoder.option Request.decode n }),
       ("variable", fun i n => do return { i with vars := ← Decoder.list Variable.decode n }),
       ("event", fun i n => do return { i with events := ← Decoder.list Event.decode n })]
      {}

/-- Items nest no deeper than the tree that they are read from. -/
def Item.decode : Decoder Item := fun n => Item.decodeWithin n.height n

def Collection.decode : Decoder Collection :=
  Decoder.record "Collection" []
    [("info", fun c n => do return { c with info := ← Info.decode n }),
     ("item", fun c n => do return { c with items := ← Decoder.list Item.decode n }),
     ("variable", fun c n => do return { c with vars := ← Decoder.list Variable.decode n }),
     ("event", fun c n => do return { c with events := ← Decoder.list Event.decode n })]
    {}

def Environment.decode : Decoder Environment :=
  Decoder.record "Environment" []
    [("id", fun e n => do return { e with id := ← Decoder.option Decoder.string n }),
     ("name", fun e n => do return { e with name := ← Decoder.string n }),
     ("values", fun e n => do return { e with values := ← Decoder.list Variable.decode n })]
    {}

end CollectionRunner
