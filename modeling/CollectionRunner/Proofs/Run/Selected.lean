import CollectionRunner.Proofs.Text.Trimming
import CollectionRunner.Run

namespace CollectionRunner

/-- The codes of the characters with the property `White_Space`. -/
def whiteSpace : List Nat :=
  [0x09, 0x0A, 0x0B, 0x0C, 0x0D, 0x20, 0x85, 0xA0, 0x1680, 0x2000, 0x2001, 0x2002, 0x2003, 0x2004,
   0x2005, 0x2006, 0x2007, 0x2008, 0x2009, 0x200A, 0x2028, 0x2029, 0x202F, 0x205F, 0x3000]

theorem isBlank_iff_mem_whiteSpace (c : Char) :
    Text.isBlank c = true ↔ c.toNat ∈ whiteSpace := by
  simp only [Text.isBlank, whiteSpace, Bool.or_eq_true, Bool.and_eq_true, decide_eq_true_eq,
    beq_iff_eq, List.mem_cons, List.not_mem_nil, or_false]
  omega

/-- A text that holds more than white space. -/
def Solid (s : String) : Prop := ∃ c ∈ s.toList, c.toNat ∉ whiteSpace

theorem trim_ne_empty_iff (s : String) : Text.trim s ≠ "" ↔ Solid s := by
  have nothing : Text.trim s = "" ↔ ∀ c ∈ s.toList, Text.isBlank c = true := by
    rw [← Text.trimChars_eq_nil_iff, Text.trim, String.ofList_eq_empty_iff]
  simp [Solid, nothing, isBlank_iff_mem_whiteSpace]

/-- The scripts that listen to a tag among events, in the order of the events. A script is its lines
with line feeds between them; those of nothing but white space are passed over. -/
inductive Listening (tag : String) : List Event → List String → Prop
  | nil : Listening tag [] []
  | taken {e events sources} (listens : e.listen = tag)
      (solid : Solid (String.intercalate "\n" e.script.lines))
      (rest : Listening tag events sources) :
      Listening tag (e :: events) (String.intercalate "\n" e.script.lines :: sources)
  | passed {e events sources}
      (other : e.listen ≠ tag ∨ ¬ Solid (String.intercalate "\n" e.script.lines))
      (rest : Listening tag events sources) : Listening tag (e :: events) sources

theorem Event.phase?_eq_some_iff {e : Event} {phase : Phase} :
    e.phase? = some phase ↔ e.listen = phase.tag := by
  unfold Event.phase? Phase.ofTag?
  cases phase
  all_goals
    simp only [Phase.tag]
    grind

theorem listening_sources (phase : Phase) (events : List Event) :
    Listening phase.tag events (phase.sources events) := by
  induction events with
  | nil => exact .nil
  | cons e events ih =>
    unfold Phase.sources at ih ⊢
    rw [List.filter_cons]
    by_cases listens : e.listen = phase.tag
    · rw [if_pos (beq_iff_eq.2 (Event.phase?_eq_some_iff.2 listens)), List.map_cons,
        List.filter_cons]
      by_cases solid : Solid e.script.source
      · rw [if_pos (decide_eq_true ((trim_ne_empty_iff _).2 solid))]
        exact .taken listens solid ih
      · rw [if_neg fun kept => solid ((trim_ne_empty_iff _).1 (of_decide_eq_true kept))]
        exact .passed (.inr solid) ih
    · rw [if_neg fun h => listens (Event.phase?_eq_some_iff.1 (beq_iff_eq.1 h))]
      exact .passed (.inl listens) ih

/-- The folders that names lead through, from the outermost inwards: each is the first of its name
in the one around it. -/
inductive Leads : List Item → List String → List Item → Prop
  | here {items} : Leads items [] []
  | into {before folder after names folders} (isFolder : folder.items.isSome = true)
      (first : ∀ i ∈ before, i.items.isSome = true → i.name ≠ folder.name)
      (rest : Leads (folder.items.getD []) names folders) :
      Leads (before ++ folder :: after) (folder.name :: names) (folder :: folders)

theorem leads_folderChainFrom {items : List Item} {names : List String}
    (whole : (folderChainFrom items names).length = names.length) :
    Leads items names (folderChainFrom items names) := by
  induction names generalizing items with
  | nil => exact .here
  | cons name names ih =>
    rw [folderChainFrom] at whole ⊢
    cases found : folderNamed? name items with
    | none => simp [found] at whole
    | some folder =>
      simp only [found, List.length_cons, Nat.add_right_cancel_iff] at whole
      obtain ⟨own, before, after, rfl, others⟩ := List.find?_eq_some_iff_append.1 found
      obtain ⟨isFolder, rfl⟩ : folder.items.isSome = true ∧ folder.name = name := by
        simpa [Item.isFolder] using own
      refine .into isFolder (fun i mem there same => ?_) (ih whole)
      have other := others i mem
      simp [Item.isFolder, there, same] at other

theorem leads_of_findRequest? {c : Collection} {breadcrumb : List String} {name : String}
    {item : Item} (found : c.findRequest? breadcrumb name = some item) :
    Leads c.items breadcrumb (c.folderChain breadcrumb) := by
  obtain ⟨level, there, -⟩ := Option.bind_eq_some_iff.1 found
  obtain ⟨whole, -⟩ := Option.ite_none_right_eq_some.1 there
  exact leads_folderChainFrom whole

/-- The scripts around an item that listen to a tag: the collection's, those of the folders of the
breadcrumb from the outermost inwards, and the item's own. -/
def ScriptsAround (tag : String) (c : Collection) (breadcrumb : List String) (item : Item)
    (sources : List String) : Prop :=
  ∃ folders, Leads c.items breadcrumb folders ∧
    Listening tag (c.events ++ folders.flatMap (·.events) ++ item.events) sources

theorem scriptsAround_sources (phase : Phase) {c : Collection} {breadcrumb : List String}
    {name : String} {item : Item} (found : c.findRequest? breadcrumb name = some item) :
    ScriptsAround phase.tag c breadcrumb item (phase.sources (c.eventsAround breadcrumb item)) :=
  ⟨_, leads_of_findRequest? found, listening_sources phase _⟩

end CollectionRunner
