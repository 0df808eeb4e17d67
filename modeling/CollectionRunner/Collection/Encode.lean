import CollectionRunner.Collection.Model
import CollectionRunner.Json.Value

namespace CollectionRunner

open Json

namespace Encode

def text (s : String) : Value := .string s

def texts (ss : List String) : Value := .array (ss.map .string)

/-- A field that is there only if it has a value. -/
def optional {α : Type} (name : String) (write : α → Value) : Option α → List (String × Value)
  | none => []
  | some v => [(name, write v)]

/-- A field that is left out when its list is empty. -/
def nonEmpty {α : Type} (name : String) (write : List α → Value) (vs : List α) :
    List (String × Value) :=
  if vs.isEmpty then [] else [(name, write vs)]

/-- A mark that is left out unless it is set. -/
def mark (name : String) (b : Bool) : List (String × Value) :=
  if b then [(name, .bool true)] else []

def each {α : Type} (write : α → Value) (vs : List α) : Value := .array (vs.map write)

end Encode

open Encode

def Variable.encode (v : Variable) : Value :=
  .ofFields ([("key", text v.key), ("value", text v.value), ("enabled", .bool v.enabled)] ++
    optional "type" text v.kind)

def Header.encode (h : Header) : Value :=
  .ofFields ([("key", text h.key), ("value", text h.value)] ++ mark "disabled" h.disabled)

def QueryParameter.encode (q : QueryParameter) : Value :=
  .ofFields ([("key", text q.key), ("value", text q.value)] ++ mark "disabled" q.disabled)

def Address.encode (a : Address) : Value :=
  .ofFields ([("raw", text a.raw)] ++ nonEmpty "host" texts a.host ++ nonEmpty "path" texts a.path ++
    nonEmpty "query" (each QueryParameter.encode) a.query)

def Body.encode (b : Body) : Value :=
  .ofFields ([("mode", text b.mode)] ++ optional "raw" text b.raw)

def Request.encode (r : Request) : Value :=
  .ofFields ([("method", text r.method), ("header", each Header.encode r.headers)] ++
    optional "body" Body.encode r.body ++ [("url", r.address.encode)])

def Script.encode (s : Script) : Value :=
  .ofFields ([("exec", texts s.lines)] ++ optional "type" text s.kind)

def Event.encode (e : Event) : Value :=
  .ofFields [("listen", text e.listen), ("script", e.script.encode)]

def Info.encode (i : Info) : Value :=
  .ofFields ([("name", text i.name)] ++ optional "description" text i.description ++
    optional "schema" text i.schema)

mutual

def Item.encode : Item → Value
  | ⟨name, items, request, vars, events⟩ =>
    .ofFields ([("name", text name)] ++ encodeFolder items ++
      optional "request" Request.encode request ++
      nonEmpty "variable" (each Variable.encode) vars ++
      nonEmpty "event" (each Event.encode) events)

/-- The list of items that makes an item a folder, also when it is empty. -/
def encodeFolder : Option (List Item) → List (String × Value)
  | none => []
  | some items => [("item", .array (encodeItems items))]

def encodeItems : List Item → List Value
  | [] => []
  | i :: rest => i.encode :: encodeItems rest

end

def Collection.encode (c : Collection) : Value :=
  .ofFields [("info", c.info.encode), ("item", .array (encodeItems c.items)),
    ("variable", each Variable.encode c.vars), ("event", each Event.encode c.events)]

def Environment.encode (e : Environment) : Value :=
  .ofFields (optional "id" text e.id ++
    [("name", text e.name), ("values", each Variable.encode e.values)])

end CollectionRunner
