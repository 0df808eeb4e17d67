import CollectionRunner.Program
import CollectionRunner.Proofs.Json.Document
import CollectionRunner.Proofs.Text.Trimming

namespace CollectionRunner

namespace RequestPath

theorem partsFrom_blank_iff {part path : List Char} :
    (∀ p ∈ partsFrom part path, ∀ c ∈ p, Text.isBlank c = true) ↔
      (∀ c ∈ part, Text.isBlank c = true) ∧
        ∀ c ∈ path, c = '/' ∨ Text.isBlank c = true := by
  induction part, path using partsFrom.induct with
  | case1 part => simp [partsFrom]
  | case2 part rest ih => simp [partsFrom, ih]
  | case3 part c rest other ih =>
    have slash : c ≠ '/' := other
    simp [partsFrom, ih, slash, and_left_comm, and_assoc]

/-- A path has no part exactly when nothing but slashes and blanks is in it. -/
theorem split?_eq_none_iff {path : String} :
    split? path = none ↔ ∀ c ∈ path.toList, c = '/' ∨ Text.isBlank c = true := by
  have no_part : split? path = none ↔ parts path = [] := by
    unfold split?
    refine Iff.trans ?_ List.reverse_eq_nil_iff
    cases (parts path).reverse <;> simp
  have all_blank : parts path = [] ↔
      ∀ p ∈ partsFrom [] path.toList, ∀ c ∈ p, Text.isBlank c = true := by
    simp [parts, Text.trimChars_eq_nil_iff]
  rw [no_part, all_blank, partsFrom_blank_iff]
  simp

end RequestPath

namespace Loading

open Files

/-- The file can be read, and its text stands for the value. -/
def Holds {α : Type} (disk : Disk) (path : String) (Parsed : String → α → Prop) (a : α) : Prop :=
  ∃ text, disk.readText path = .ok text ∧ Parsed text a

/-- The file cannot be read, or its text stands for no value. -/
def Unusable {α : Type} (disk : Disk) (path : String) (Parsed : String → α → Prop) : Prop :=
  (∃ e, disk.readText path = .error e) ∨
    ∃ text, disk.readText path = .ok text ∧ ∀ a, ¬ Parsed text a

/-- A JSON text that can be read as the value. -/
def JsonText {α : Type} (read : Json.Decoder α) (text : String) (a : α) : Prop :=
  Json.readText read text = .ok a

/-- The variables after some assignments, one after another. -/
def assigned (values : List Variable) (entries : List (String × String)) : List Variable :=
  entries.foldl (fun values entry => assign values entry.1 entry.2) values

/-- The text of an environment in a file: assignments, each of which can be read, or JSON. -/
inductive EnvironmentText (path text : String) : Environment → Prop
  | assignments {entries : List (String × String)} (dotenv : isDotenv path = true)
    (parsed : Dotenv.parse text = entries.map .ok) :
    EnvironmentText path text ⟨none, ((fileName? path).map stem).getD "env", assigned [] entries⟩
  | json {e : Environment} (dotenv : isDotenv path = false)
    (parsed : JsonText Environment.decode text e) : EnvironmentText path text e

variable {α : Type} {disk : Disk} {path : String} {Parsed : String → α → Prop}

theorem unusable_iff : Unusable disk path Parsed ↔ ∀ a, ¬ Holds disk path Parsed a := by
  unfold Unusable Holds
  cases disk.readText path <;> simp

theorem holds_of_not_unusable (h : ¬ Unusable disk path Parsed) : ∃ a, Holds disk path Parsed a := by
  simpa [unusable_iff] using h

theorem Holds.eq {read : Json.Decoder α} {a b : α} (ha : Holds disk path (JsonText read) a)
    (hb : Holds disk path (JsonText read) b) : a = b := by
  obtain ⟨text, reading, parsed⟩ := ha
  obtain ⟨text', reading', parsed'⟩ := hb
  obtain rfl := Except.ok.inj (reading.symm.trans reading')
  exact Except.ok.inj (parsed.symm.trans parsed')

theorem readFile_eq_ok_iff {kind text : String} :
    readFile disk kind path = .ok text ↔ disk.readText path = .ok text :=
  mapError_eq_ok_iff

theorem parseFile_eq_ok_iff {read : Json.Decoder α} {kind text : String} {a : α} :
    parseFile read kind path text = .ok a ↔ JsonText read text a :=
  mapError_eq_ok_iff

theorem assignAll_eq_ok_iff {ε : Type} {values result : List Variable}
    {assignments : List (Except ε (String × String))} :
    assignAll values assignments = .ok result ↔
      ∃ entries, assignments = List.map .ok entries ∧ result = assigned values entries := by
  induction assignments generalizing values with
  | nil => simp [assignAll, assigned, eq_comm]
  | cons first rest ih =>
    cases first with
    | error e =>
      constructor
      · rintro ⟨⟩
      · rintro ⟨entries, h, -⟩
        cases entries <;> simp at h
    | ok entry =>
      rw [assignAll, ih]
      constructor
      · rintro ⟨entries, rfl, rfl⟩
        exact ⟨entry :: entries, rfl, rfl⟩
      · rintro ⟨entries, h, rfl⟩
        cases entries with
        | nil => simp at h
        | cons other entries =>
          obtain ⟨rfl, rfl⟩ : entry = other ∧ rest = List.map .ok entries := by simpa using h
          exact ⟨entries, rfl, rfl⟩

theorem collection_eq_ok_iff {c : Collection} :
    collection disk path = .ok c ↔ Holds disk path (JsonText Collection.decode) c := by
  unfold collection Holds
  rw [bind_eq_ok_iff]
  simp only [readFile_eq_ok_iff, parseFile_eq_ok_iff]

theorem dotenvEnvironment_eq_ok_iff {text : String} {e : Environment} :
    dotenvEnvironment path text = .ok e ↔ ∃ entries, Dotenv.parse text = List.map .ok entries ∧
      e = ⟨none, ((fileName? path).map stem).getD "env", assigned [] entries⟩ := by
  have read_iff : dotenvEnvironment path text = .ok e ↔ ∃ values,
      assignAll [] (Dotenv.parse text) = .ok values ∧
        e = ⟨none, ((fileName? path).map stem).getD "env", values⟩ := by
    unfold dotenvEnvironment
    cases assignAll [] (Dotenv.parse text) <;> simp [eq_comm]
  rw [read_iff]
  simp only [assignAll_eq_ok_iff]
  constructor
  · rintro ⟨_, ⟨entries, parsed, rfl⟩, he⟩
    exact ⟨entries, parsed, he⟩
  · rintro ⟨entries, parsed, he⟩
    exact ⟨_, ⟨entries, parsed, rfl⟩, he⟩

theorem environment_eq_ok_iff {e : Environment} :
    environment disk path = .ok e ↔ Holds disk path (EnvironmentText path) e := by
  unfold environment Holds
  rw [bind_eq_ok_iff]
  refine exists_congr fun text => and_congr readFile_eq_ok_iff ?_
  cases dotenv : isDotenv path with
  | true =>
    rw [if_pos rfl, dotenvEnvironment_eq_ok_iff]
    constructor
    · rintro ⟨entries, parsed, rfl⟩
      exact .assignments dotenv parsed
    · intro
      | .assignments _ parsed => exact ⟨_, parsed, rfl⟩
      | .json other _ => exact absurd (dotenv.symm.trans other) (by decide)
  | false =>
    rw [if_neg Bool.false_ne_true, parseFile_eq_ok_iff]
    constructor
    · exact .json dotenv
    · intro
      | .assignments other _ => exact absurd (dotenv.symm.trans other) (by decide)
      | .json _ parsed => exact parsed

/-- The settings that are in effect: those of the file when it exists, or else the usual ones. -/
structure Settled (disk : Disk) (path : String) (c : Config) : Prop where
  present : disk.contains path = true → Holds disk path (JsonText Config.decode) c
  absent : disk.contains path = false → c = {}

theorem config_settled_iff {target : String} {c : Config} :
    (∃ loaded, config disk target = .ok loaded ∧ (loaded.map (·.config)).getD {} = c) ↔
      Settled disk (configPlace disk target).1 c := by
  unfold config
  obtain ⟨place, directory⟩ := configPlace disk target
  dsimp only
  cases contained : disk.contains place with
  | true =>
    simp only [if_pos, bind_eq_ok_iff, readFile_eq_ok_iff, parseFile_eq_ok_iff]
    constructor
    · rintro ⟨loaded, ⟨text, read, found, parsed, h⟩, settled⟩
      obtain rfl := Except.ok.inj h
      obtain rfl : found = c := settled
      exact ⟨fun _ => ⟨text, read, parsed⟩,
        fun other => absurd (contained.symm.trans other) (by decide)⟩
    · intro settled
      obtain ⟨text, read, parsed⟩ := settled.present contained
      exact ⟨some ⟨c, place, directory⟩, ⟨text, read, c, parsed, rfl⟩, rfl⟩
  | false =>
    rw [if_neg Bool.false_ne_true]
    constructor
    · rintro ⟨loaded, h, settled⟩
      obtain rfl := Except.ok.inj h
      exact ⟨fun other => absurd (contained.symm.trans other) (by decide), fun _ => settled.symm⟩
    · intro settled
      exact ⟨none, rfl, (settled.absent contained).symm⟩

end Loading

namespace Surroundings

section

variable (s : Surroundings) (collection request : String) (environment config : Option String)

/-- The file of the settings, which need not exist. -/
def settingsPlace : String :=
  (Loading.configPlace s.disk (configTarget s.disk.workingDirectory collection config)).1

/-- Everything that a run needs was loaded, and its path has parts. -/
structure Ready (a : Assignment) : Prop where
  settings : Loading.Settled s.disk (s.settingsPlace collection config) a.config
  collection : Loading.Holds s.disk (s.locate collection) (Loading.JsonText Collection.decode)
    a.workspace.collection
  environment :
    match environment with
    | none => a.workspace.environment = none
    | some path => ∃ e, a.workspace.environment = some e ∧
      Loading.Holds s.disk (s.locate path) (Loading.EnvironmentText (s.locate path)) e
  path : RequestPath.split? request = some (a.breadcrumb, a.name)

/-- What keeps a run from being carried out; several of these may hold at once. -/
inductive Obstacle : Prop
  | settings (present : s.disk.contains (s.settingsPlace collection config) = true)
    (unusable : Loading.Unusable s.disk (s.settingsPlace collection config)
      (Loading.JsonText Config.decode))
  | collection (unusable : Loading.Unusable s.disk (s.locate collection)
      (Loading.JsonText Collection.decode))
  | environment {path : String} (given : environment = some path)
    (unusable : Loading.Unusable s.disk (s.locate path) (Loading.EnvironmentText (s.locate path)))
  | path (blank : ∀ c ∈ request.toList, c = '/' ∨ Text.isBlank c = true)
  | request {c : Collection} {breadcrumb : List String} {name : String}
    (loaded : Loading.Holds s.disk (s.locate collection) (Loading.JsonText Collection.decode) c)
    (split : RequestPath.split? request = some (breadcrumb, name))
    (missing : c.findRequest? breadcrumb name = none)

end

variable {s : Surroundings} {collection request : String} {environment config : Option String}

theorem mapM_environment_eq_ok_iff {e : Option Environment} :
    environment.mapM (fun path => Loading.environment s.disk (s.locate path)) = .ok e ↔
      match environment with
      | none => e = none
      | some path => ∃ given, e = some given ∧
        Loading.Holds s.disk (s.locate path) (Loading.EnvironmentText (s.locate path)) given := by
  cases environment with
  | none => simp [Pure.pure, Except.pure, eq_comm]
  | some path =>
    simp only [←Loading.environment_eq_ok_iff, Option.mapM_some]
    cases Loading.environment s.disk (s.locate path) <;>
      simp [Functor.map, Except.map, eq_comm]

theorem assignment_eq_ok_iff {a : Assignment} :
    s.assignment collection request environment config = .ok a ↔
      s.Ready collection request environment config a := by
  unfold assignment
  simp only [bind_eq_ok_iff, mapError_eq_ok_iff, Loading.collection_eq_ok_iff,
    mapM_environment_eq_ok_iff]
  cases split : RequestPath.split? request with
  | none =>
    constructor
    · rintro ⟨_, _, _, _, _, _, h⟩
      exact absurd h (by simp [throw, throwThe, MonadExceptOf.throw])
    · intro ready
      exact absurd (split.symm.trans ready.path) (by simp)
  | some parts =>
    obtain ⟨breadcrumb, name⟩ := parts
    constructor
    · rintro ⟨loaded, hl, c, hc, e, he, h⟩
      obtain rfl := Except.ok.inj h
      exact ⟨Loading.config_settled_iff.mp ⟨loaded, hl, rfl⟩, hc, he, split⟩
    · intro ⟨settings, hc, he, path⟩
      obtain ⟨loaded, hl, settings⟩ := Loading.config_settled_iff.mpr settings
      obtain ⟨rfl, rfl⟩ := Prod.mk.inj (Option.some.inj (path.symm.trans split))
      refine ⟨loaded, hl, _, hc, _, he, ?_⟩
      dsimp only
      rw [settings]
      rfl

/-- There is an obstacle exactly when nothing that could be loaded has the request. -/
theorem obstacle_iff : s.Obstacle collection request environment config ↔
    ∀ a, s.Ready collection request environment config a →
      a.workspace.collection.findRequest? a.breadcrumb a.name = none := by
  constructor
  · rintro (⟨present, unusable⟩ | unusable | ⟨rfl, unusable⟩ | blank | ⟨loaded, split, missing⟩)
      a ready
    · exact absurd (ready.settings.present present) (Loading.unusable_iff.mp unusable _)
    · exact absurd ready.collection (Loading.unusable_iff.mp unusable _)
    · obtain ⟨e, -, he⟩ := ready.environment
      exact absurd he (Loading.unusable_iff.mp unusable e)
    · have no_part := RequestPath.split?_eq_none_iff.mpr blank
      exact absurd (no_part.symm.trans ready.path) (by simp)
    · obtain ⟨rfl, rfl⟩ := Prod.mk.inj (Option.some.inj (split.symm.trans ready.path))
      rwa [←loaded.eq ready.collection]
  · intro h
    by_contra clear
    obtain ⟨settings, hs⟩ : ∃ c, Loading.Settled s.disk (s.settingsPlace collection config) c := by
      cases present : s.disk.contains (s.settingsPlace collection config) with
      | true =>
        obtain ⟨c, hc⟩ := Loading.holds_of_not_unusable fun h => clear (.settings present h)
        exact ⟨c, fun _ => hc, fun absent => absurd (present.symm.trans absent) (by decide)⟩
      | false => exact ⟨{}, fun h => absurd (present.symm.trans h) (by decide), fun _ => rfl⟩
    obtain ⟨c, hc⟩ := Loading.holds_of_not_unusable fun h => clear (.collection h)
    cases split : RequestPath.split? request with
    | none => exact clear (.path (RequestPath.split?_eq_none_iff.mp split))
    | some parts =>
      have missing (e : Option Environment) (he) :=
        h ⟨settings, ⟨c, e⟩, parts.1, parts.2⟩ ⟨hs, hc, he, split⟩
      cases environment with
      | none => exact clear (.request hc split (missing none rfl))
      | some path =>
        obtain ⟨e, he⟩ := Loading.holds_of_not_unusable fun h => clear (.environment rfl h)
        exact clear (.request hc split (missing (some e) ⟨e, rfl, he⟩))

theorem Ready.eq {a b : Assignment} (ha : s.Ready collection request environment config a)
    (hb : s.Ready collection request environment config b) : a = b :=
  Except.ok.inj ((assignment_eq_ok_iff.mpr ha).symm.trans (assignment_eq_ok_iff.mpr hb))

theorem Ready.obstacle_iff {a : Assignment}
    (ready : s.Ready collection request environment config a) :
    s.Obstacle collection request environment config ↔
      a.workspace.collection.findRequest? a.breadcrumb a.name = none := by
  rw [Surroundings.obstacle_iff]
  refine ⟨fun h => h a ready, fun h b other => ?_⟩
  rwa [other.eq ready]

end Surroundings

end CollectionRunner
