import CollectionRunner.Proofs.Collection.Paths
import CollectionRunner.Proofs.CommandLine.Operands
import CollectionRunner.Proofs.Console.Methods
import CollectionRunner.Proofs.Program.Stages

namespace CollectionRunner

namespace Surroundings

variable {s : Surroundings} {collection : String} {environment config : Option String}
  {settings : Config} {given : Option Environment} {c : Collection}

/-- The settings and the environment of a run can be loaded. -/
structure Furnished (s : Surroundings) (collection : String) (environment config : Option String)
    (settings : Config) (given : Option Environment) : Prop where
  settings : Loading.Settled s.disk (s.settingsPlace collection config) settings
  environment :
    environment.mapM (fun path => Loading.environment s.disk (s.locate path)) = .ok given

theorem Furnished.ready (h : s.Furnished collection environment config settings given)
    (loaded : Loading.Holds s.disk (s.locate collection) (Loading.JsonText Collection.decode) c)
    {request name : String} {breadcrumb : List String}
    (split : RequestPath.split? request = some (breadcrumb, name)) :
    s.Ready collection request environment config ⟨settings, ⟨c, given⟩, breadcrumb, name⟩ :=
  ⟨h.settings, loaded, mapM_environment_eq_ok_iff.1 h.environment, split⟩

/-- What is printed for a listing: the requests in order, each with its method and its path. -/
theorem program_list {arguments : List String} {jsonLogs : Bool} {verbosity : Nat}
    (asked : CommandLine.Invocation.ofArguments arguments =
      .ok ⟨.list collection, jsonLogs, verbosity⟩)
    (loaded : Loading.Holds s.disk (s.locate collection) (Loading.JsonText Collection.decode) c) :
    s.program arguments =
      { exit := 0
        output := String.join (c.requests.map fun e =>
          (Console.methodPiece e.2).render s.colours ++ (" " ++ Collection.pathOf e) ++
            "\n") } := by
  rw [program, asked]
  dsimp only
  rw [perform]
  dsimp only
  rw [Loading.collection_eq_ok_iff.2 loaded]
  dsimp only
  rw [Console.listing_eq]
  rfl

/-- A run of a path that leads to a request is a run of this request. -/
theorem program_run {arguments : List String} {request name : String} {breadcrumb : List String}
    {item : Item} {preview : Nat} {jsonLogs : Bool} {verbosity : Nat}
    (asked : CommandLine.Invocation.ofArguments arguments =
      .ok ⟨.run collection request environment config preview, jsonLogs, verbosity⟩)
    (loaded : Loading.Holds s.disk (s.locate collection) (Loading.JsonText Collection.decode) c)
    (furnished : s.Furnished collection environment config settings given)
    (split : RequestPath.split? request = some (breadcrumb, name))
    (found : c.findRequest? breadcrumb name = some item) :
    s.program arguments =
      s.transcript ⟨.run collection request environment config preview, jsonLogs, verbosity⟩ preview
        (.ok ((s.runner s.engine s.network settings).runItem breadcrumb name item ⟨c, given⟩)) := by
  have ready := assignment_eq_ok_iff.2 (furnished.ready loaded split)
  rw [program, asked]
  dsimp only
  rw [s.perform_eq_transcript rfl ready]
  dsimp only
  rw [Runner.run_eq_runItem _ found]

/-- A path has no parts exactly when nothing but slashes and blanks is in it; its parts are names
without slashes and without blanks at their ends, and such names are the parts of the path that they
make. So where all names are of this kind and siblings differ in theirs, each path that a listing
shows, given to a run, leads to a run of the request that it was shown for. -/
theorem listed_paths_lead_back :
    (∀ path, RequestPath.split? path = none ↔
      ∀ ch ∈ path.toList, ch = '/' ∨ Text.isBlank ch = true) ∧
    (∀ path breadcrumb name, RequestPath.split? path = some (breadcrumb, name) →
      (∀ part ∈ breadcrumb ++ [name], RequestPath.IsPart part) ∧
        RequestPath.split? (joinPath breadcrumb name) = some (breadcrumb, name)) ∧
    (∀ breadcrumb name, (∀ part ∈ breadcrumb ++ [name], RequestPath.IsPart part) →
      RequestPath.split? (joinPath breadcrumb name) = some (breadcrumb, name)) ∧
    (∀ collection path, collection ≠ "" →
      CommandLine.Invocation.ofArguments ["run", "--", collection, path] =
        .ok ⟨.run collection path none none 512, false, 0⟩) ∧
    ∀ (s : Surroundings) (collection : String) (c : Collection),
      Loading.Holds s.disk (s.locate collection) (Loading.JsonText Collection.decode) c →
      Addressable c.items →
      (∀ arguments jsonLogs verbosity, CommandLine.Invocation.ofArguments arguments =
          .ok ⟨.list collection, jsonLogs, verbosity⟩ →
        s.program arguments =
          { exit := 0
            output := String.join (c.requests.map fun e =>
              (Console.methodPiece e.2).render s.colours ++ (" " ++ Collection.pathOf e) ++
                "\n") }) ∧
      (c.requests.map Collection.pathOf).Nodup ∧
      ∀ e ∈ c.requests, c.findRequest? e.1 e.2.name = some e.2 ∧
        ∀ arguments environment config preview jsonLogs verbosity settings given,
          CommandLine.Invocation.ofArguments arguments =
            .ok ⟨.run collection (Collection.pathOf e) environment config preview, jsonLogs,
              verbosity⟩ →
          s.Furnished collection environment config settings given →
          s.program arguments =
            s.transcript
              ⟨.run collection (Collection.pathOf e) environment config preview, jsonLogs,
                verbosity⟩ preview
              (.ok ((s.runner s.engine s.network settings).runItem e.1 e.2.name e.2
                ⟨c, given⟩)) := by
  refine ⟨fun _ => RequestPath.split?_eq_none_iff, fun path breadcrumb name split => ?_,
    fun _ _ => RequestPath.split?_joinPath,
    fun collection path some_path => CommandLine.ofArguments_operands collection path some_path,
    fun s collection c loaded addressable => ⟨?_, Collection.nodup_paths addressable, ?_⟩⟩
  · have parts := RequestPath.isPart_of_split? split
    exact ⟨parts, RequestPath.split?_joinPath parts⟩
  · intro arguments jsonLogs verbosity asked
    exact program_list asked loaded
  · intro e he
    have found := Collection.findRequest?_of_mem addressable he
    refine ⟨found, ?_⟩
    intro arguments environment config preview jsonLogs verbosity settings given asked furnished
    exact program_run asked loaded furnished (Collection.split?_pathOf addressable he) found

theorem ok_of_evaluated {ε α β : Type} {x : Except ε α} {f : α → β} {b : β}
    (h : (x.map f).toOption = some b) : ∃ a, x = .ok a ∧ f a = b := by
  cases x with
  | error e => cases h
  | ok a => exact ⟨a, rfl, Option.some.inj h⟩

/-- A listing shows the one request in a folder, and a run of the path that it shows is a run of
this request. -/
theorem listed_path_users_ping :
    let text := "\x7b\"item\": [\x7b\"name\": \"Users\", \"item\": " ++
      "[\x7b\"name\": \"Ping\", \"request\": \x7b\x7d\x7d]\x7d]\x7d"
    let s : Surroundings :=
      { disk := ⟨"/work", [(["work", "api.json"], .file text.toUTF8)]⟩
        network := Http.unreachable }
    ∃ c item, c.requests = [(["Users"], item)] ∧
      (s.program ["list", "api.json"]).output =
        (Console.methodPiece item).render false ++ " Users/Ping\n" ∧
      s.program ["run", "--", "api.json", "Users/Ping"] =
        s.transcript ⟨.run "api.json" "Users/Ping" none none 512, false, 0⟩ 512
          (.ok ((s.runner s.engine s.network {}).runItem ["Users"] "Ping" item ⟨c, none⟩)) := by
  intro text s
  have read : s.disk.readText (s.locate "api.json") = .ok text := by decide +kernel
  have evaluated : ((Json.readText Collection.decode text).map fun c =>
      (c.requests.map fun e => (e.1, e.2.name), c.items.map fun i =>
        (i.name, i.children.map fun j => (j.name, j.children.isEmpty)))).toOption =
      some ([(["Users"], "Ping")], [("Users", [("Ping", true)])]) := by decide +kernel
  obtain ⟨c, parsed, shape⟩ := ok_of_evaluated evaluated
  obtain ⟨requests, items⟩ := Prod.mk.inj shape
  obtain ⟨⟨breadcrumb, item⟩, listed, entry⟩ := List.map_eq_singleton_iff.1 requests
  obtain ⟨rfl, name⟩ := Prod.mk.inj entry
  have addressable : Addressable c.items := by
    obtain ⟨folder, found, inner⟩ := List.map_eq_singleton_iff.1 items
    obtain ⟨folder_name, inner⟩ := Prod.mk.inj inner
    obtain ⟨request, inside, own⟩ := List.map_eq_singleton_iff.1 inner
    obtain ⟨request_name, no_child⟩ := Prod.mk.inj own
    have part {name : String} (some_char : name ≠ "") (no_slash : '/' ∉ name.toList)
        (trimmed : Text.trimChars name.toList = name.toList) : RequestPath.IsPart name :=
      ⟨some_char, no_slash, Text.trimChars_eq_self_iff.1 trimmed⟩
    rw [found]
    refine .single ?_ ?_
    · rw [folder_name]
      exact part (by decide) (by decide) (by decide)
    · rw [inside]
      refine .single ?_ ?_
      · rw [request_name]
        exact part (by decide) (by decide) (by decide)
      · rw [List.isEmpty_iff.1 no_child]
        exact .nil
  have path : Collection.pathOf (["Users"], item) = "Users/Ping" := by
    rw [Collection.pathOf, name]
    rfl
  have furnished : s.Furnished "api.json" none none {} none :=
    ⟨⟨fun present => absurd present (by decide +kernel), fun _ => rfl⟩, rfl⟩
  obtain ⟨-, -, -, given, paths⟩ := listed_paths_lead_back
  obtain ⟨list, -, run⟩ := paths s "api.json" c ⟨text, read, parsed⟩ addressable
  obtain ⟨-, runs⟩ := run (["Users"], item) (by simp [listed])
  rw [path, name] at runs
  refine ⟨c, item, listed, ?_, ?_⟩
  · have colours : s.colours = false := rfl
    rw [list ["list", "api.json"] false 0 rfl, listed, List.map_singleton, path, colours]
    simp [String.join, String.append_assoc]
  · exact runs _ none none 512 false 0 {} none (given "api.json" "Users/Ping" (by decide)) furnished

end Surroundings

end CollectionRunner
