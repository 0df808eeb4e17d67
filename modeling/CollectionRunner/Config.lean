import CollectionRunner.Scope
import CollectionRunner.Json.Decode

namespace CollectionRunner

/-- Times are in milliseconds and the memory limit is in bytes; a map is the list of its entries. -/
structure Config where
  requestTimeout : Nat := 30000
  scriptTimeout : Nat := 5000
  scriptMemoryLimit : Nat := 64 * 1024 * 1024
  vars : List (String × String) := []
  extras : List (String × Json.Value) := []

namespace Config

open Json

/-- The file that holds the settings of a directory. -/
def fileName : String := "pmrun.json"

/-- Settings that are not known are kept. -/
def decode : Decoder Config :=
  Decoder.openRecord "EngineConfig"
    [("requestTimeoutMs", fun c n => do return { c with requestTimeout := ← Decoder.word "u64" n }),
     ("scriptTimeoutMs", fun c n => do return { c with scriptTimeout := ← Decoder.word "u64" n }),
     ("scriptMemoryLimit", fun c n => do
       return { c with scriptMemoryLimit := ← Decoder.word "usize" n }),
     ("variables", fun c n => do return { c with vars := ← Decoder.map Decoder.string n })]
    (fun c key n => do return { c with extras := insertField key (← n.value) c.extras })
    {}

/-- The variables of the settings in the order of their keys, however their map is listed. -/
def variableEntries (c : Config) : List Variable :=
  (c.vars.mergeSort fun a b => a.1 ≤ b.1).map fun (key, value) => { key, value }

/-- The variables in effect at a breadcrumb, those of the settings last. -/
def snapshot (c : Config) (collection : Collection) (breadcrumb : List String)
    (environment : Option Environment) : Snapshot :=
  (Snapshot.build (some collection) breadcrumb environment).push "Config" c.variableEntries

end Config

end CollectionRunner
