import CollectionRunner.Proofs.Program.Obstacles
import CollectionRunner.Proofs.Scope.Reading
import CollectionRunner.Proofs.Variables.History

namespace CollectionRunner

/-- The value that was assigned last to a key. -/
def lastAssigned? (entries : List (String × String)) (key : String) : Option String :=
  ((entries.filter (·.1 = key)).getLast?).map (·.2)

theorem isSome_lastAssigned? {entries : List (String × String)} {key : String} :
    (lastAssigned? entries key).isSome = true ↔ key ∈ entries.map (·.1) := by
  simp [lastAssigned?]

theorem lastAssigned?_concat (entries : List (String × String)) (key value : String) :
    lastAssigned? (entries ++ [(key, value)]) =
      Variables.wrote key value (lastAssigned? entries) := by
  funext k
  unfold lastAssigned? Variables.wrote
  by_cases h : key = k
  · simp [List.filter_append, h]
  · simp [List.filter_append, h, Ne.symm h]

/-- The variables of assigned keys, each where it was first assigned and with its last value. -/
def assignedValues (entries : List (String × String)) : List Variable :=
  Variables.newEntries (lastAssigned? entries) (entries.map (·.1)).eraseDups

theorem keys_assignedValues (entries : List (String × String)) :
    Variables.keys (assignedValues entries) = (entries.map (·.1)).eraseDups := by
  rw [Variables.keys, assignedValues, Variables.newEntries, List.map_map]
  exact List.map_id _

theorem set_assignedValues (entries : List (String × String)) (key value : String) :
    Variables.set key value (assignedValues entries) =
      assignedValues (entries ++ [(key, value)]) := by
  rw [assignedValues, assignedValues, Variables.set_newEntries _ (Variables.nodup_eraseDups _),
    lastAssigned?_concat, List.map_append, List.map_singleton, Variables.eraseDups_concat]
  simp only [List.mem_eraseDups]

theorem get?_assignedValues (entries : List (String × String)) (key : String) :
    Variables.get? (assignedValues entries) key = lastAssigned? entries key := by
  induction entries using List.reverseRecOn with
  | nil => rfl
  | append_singleton entries entry ih =>
    rw [← set_assignedValues, Variables.get?_set, lastAssigned?_concat, ih]
    rfl

theorem of_mem_assignedValues {entries : List (String × String)} {v : Variable}
    (h : v ∈ assignedValues entries) :
    v.enabled = true ∧ v.kind = none ∧ lastAssigned? entries v.key = some v.value := by
  obtain ⟨key, mem, rfl⟩ := List.mem_map.1 h
  obtain ⟨value, last⟩ := Option.isSome_iff_exists.1
    (isSome_lastAssigned?.2 (List.mem_eraseDups.1 mem))
  exact ⟨rfl, rfl, by rw [last, Option.getD_some]⟩

namespace Loading

variable {values : List Variable}

/-- Among variables that are enabled an assignment is a write. -/
theorem assign_eq_set (enabled : ∀ v ∈ values, v.enabled = true) (key value : String) :
    assign values key value = Variables.set key value values := by
  induction values with
  | nil => rfl
  | cons v rest ih =>
    obtain ⟨first, later⟩ := List.forall_mem_cons.1 enabled
    rw [assign, Variables.set, ih later, ← first]

theorem assignAll_append {ε : Type} (values : List Variable) (entries : List (String × String))
    (items : List (Except ε (String × String))) :
    assignAll values (entries.map .ok ++ items) =
      assignAll (assigned values entries) items := by
  induction entries generalizing values with
  | nil => rfl
  | cons entry rest ih => exact ih _

theorem assigned_nil (entries : List (String × String)) :
    assigned [] entries = assignedValues entries := by
  induction entries using List.reverseRecOn with
  | nil => rfl
  | append_singleton entries entry ih =>
    have enabled : ∀ v ∈ assignedValues entries, v.enabled = true := fun v hv =>
      (of_mem_assignedValues hv).1
    have one_more : assigned [] (entries ++ [entry]) =
        assign (assigned [] entries) entry.1 entry.2 :=
      List.foldl_concat _ _ _ _
    rw [one_more, ih, assign_eq_set enabled, set_assignedValues]

/-- The environment that the assignments of a dotenv file make. -/
def environmentOf (path : String) (items : List (Except Dotenv.LineError (String × String))) :
    Except Failure Environment :=
  match assignAll [] items with
  | .error e => .error ⟨["parsing env file " ++ path, e.message]⟩
  | .ok values => .ok { name := ((Files.fileName? path).map Files.stem).getD "env", values }

theorem environmentOf_ok (path : String) (entries : List (String × String)) :
    environmentOf path (entries.map .ok) = .ok
      { name := ((Files.fileName? path).map Files.stem).getD "env",
        values := assignedValues entries } := by
  rw [environmentOf, assignAll_eq_ok_iff.2 ⟨entries, rfl, rfl⟩, assigned_nil]

/-- What was assigned before an item that cannot be read is lost. -/
theorem environmentOf_error (path : String) (before : List (String × String))
    (first : Dotenv.LineError) (after : List (Except Dotenv.LineError (String × String))) :
    environmentOf path (before.map .ok ++ .error first :: after) =
      .error ⟨["parsing env file " ++ path, first.message]⟩ := by
  rw [environmentOf, assignAll_append]
  rfl

theorem environment_of_isDotenv {disk : Files.Disk} {path text : String}
    (dotenv : isDotenv path = true) (read : disk.readText path = .ok text) :
    environment disk path = environmentOf path (Dotenv.parse text) := by
  have holds : readFile disk "environment" path = .ok text := readFile_eq_ok_iff.2 read
  have made : environment disk path = dotenvEnvironment path text := by
    simp [environment, holds, dotenv, bind, Except.bind]
  rw [made]
  unfold dotenvEnvironment environmentOf
  cases assignAll [] (Dotenv.parse text) <;> rfl

end Loading

/-- What is read of the environment is in effect, with a collection or without one. -/
theorem Snapshot.get?_build (collection : Option Collection) (breadcrumb : List String)
    (e : Environment) (key : String) :
    (Snapshot.build collection breadcrumb (some e)).get? key =
      (Variables.get? e.values key).or ((Snapshot.build collection breadcrumb none).get? key) := by
  cases collection with
  | none =>
    have pushed : (Snapshot.build none breadcrumb (some e)).find? key =
        binding? ("Environment: " ++ e.name) (e.values.filter (·.enabled)) key :=
      (find?_push sound_empty _ _ key).trans (Option.none_or)
    rw [get?, pushed, value_binding?_enabled]
    exact (Option.or_none).symm
  | some c => rw [build_eq_snapshot, Config.get?_snapshot, ← build_eq_snapshot]; rfl

namespace Loading

/-- An environment made of assignments: it has each key once, where it was first assigned, enabled,
without a type, and with the value that a snapshot gives too. -/
structure Assigns (entries : List (String × String)) (e : Environment) : Prop where
  keys : Variables.keys e.values = (entries.map (·.1)).eraseDups
  nodup : (Variables.keys e.values).Nodup
  entry : ∀ v ∈ e.values,
    v.enabled = true ∧ v.kind = none ∧ lastAssigned? entries v.key = some v.value
  bound : ∀ collection breadcrumb key value, lastAssigned? entries key = some value →
    (Snapshot.build collection breadcrumb (some e)).get? key = some value
  only : ∀ breadcrumb key,
    (Snapshot.build none breadcrumb (some e)).get? key = lastAssigned? entries key

theorem assigns_assignedValues (name : String) (entries : List (String × String)) :
    Assigns entries { name, values := assignedValues entries } where
  keys := keys_assignedValues entries
  nodup := by
    rw [keys_assignedValues]
    exact Variables.nodup_eraseDups _
  entry _ := of_mem_assignedValues
  bound collection breadcrumb key value last := by
    rw [Snapshot.get?_build, get?_assignedValues, last, Option.some_or]
  only breadcrumb key := by
    rw [Snapshot.get?_build, get?_assignedValues]
    exact Option.or_none

/-- Items of which one cannot be read are assignments up to the first such one. -/
theorem first_error {ε α : Type} {items : List (Except ε α)} {error : ε}
    (h : .error error ∈ items) :
    ∃ (before : List α) (first : ε) (after : List (Except ε α)),
      items = before.map .ok ++ .error first :: after := by
  induction items with
  | nil => cases h
  | cons item rest ih =>
    cases item with
    | error first => exact ⟨[], first, rest, rfl⟩
    | ok entry =>
      have later : .error error ∈ rest := by simpa using h
      obtain ⟨before, first, after, rfl⟩ := ih later
      exact ⟨entry :: before, first, after, rfl⟩

/-- A dotenv file makes the environment of its assignments, each key with its last value, or none at
all when one of its assignments cannot be read. -/
theorem environment_assigns (path : String) :
    (∀ entries, ∃ e, environmentOf path (entries.map .ok) = .ok e ∧ Assigns entries e) ∧
    (∀ items error, .error error ∈ items → ∃ before first after,
      items = List.map .ok before ++ .error first :: after ∧
        environmentOf path items = .error ⟨["parsing env file " ++ path, first.message]⟩) ∧
    ∀ (disk : Files.Disk) (text : String), isDotenv path = true → disk.readText path = .ok text →
      environment disk path = environmentOf path (Dotenv.parse text) := by
  refine ⟨fun entries => ?_, fun items error mem => ?_, fun _ _ => environment_of_isDotenv⟩
  · exact ⟨_, environmentOf_ok path entries, assigns_assignedValues _ entries⟩
  · obtain ⟨before, first, after, rfl⟩ := first_error mem
    exact ⟨before, first, after, rfl, environmentOf_error path before first after⟩

/-- A key that is assigned twice keeps its place and has its second value. -/
theorem environment_assigns_twice :
    let text := "A=1\nB=2\nA=3\n"
    let disk : Files.Disk := ⟨"/work", [(["work", "staging.env"], .file text.toUTF8)]⟩
    isDotenv "/work/staging.env" = true ∧ disk.readText "/work/staging.env" = .ok text ∧
      ∃ e, environment disk "/work/staging.env" = .ok e ∧ Variables.keys e.values = ["A", "B"] ∧
        ∀ collection breadcrumb,
          (Snapshot.build collection breadcrumb (some e)).get? "A" = some "3" := by
  intro text disk
  have dotenv : isDotenv "/work/staging.env" = true := by decide +kernel
  have read : disk.readText "/work/staging.env" = .ok text := by decide +kernel
  have parsed : Dotenv.parse text = [("A", "1"), ("B", "2"), ("A", "3")].map .ok := by
    decide +kernel
  obtain ⟨made, -, from_file⟩ := environment_assigns "/work/staging.env"
  obtain ⟨e, he, assigns⟩ := made [("A", "1"), ("B", "2"), ("A", "3")]
  have loaded := from_file disk text dotenv read
  rw [parsed, he] at loaded
  exact ⟨dotenv, read, e, loaded, assigns.keys.trans (by decide +kernel),
    fun collection breadcrumb => assigns.bound collection breadcrumb "A" "3" (by decide +kernel)⟩

end Loading

end CollectionRunner
