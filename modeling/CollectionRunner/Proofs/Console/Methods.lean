import CollectionRunner.Console.Report
import CollectionRunner.Proofs.Collection.Listing
import CollectionRunner.Proofs.Text.Trimming
import CollectionRunner.Proofs.Unicode.Capitals

namespace CollectionRunner

open Unicode.Case (capital capital_ne_nil capital_of_ascii capital_of_isBlank toList_upperString
  toUpper_of_not_ascii)

theorem Collection.isRequest_of_mem_requests {c : Collection} {e : List String × Item}
    (h : e ∈ c.requests) : e.2.isRequest = true := by
  have listed : some e ∈ (listingOf [] c.items).map some := List.mem_map_of_mem h
  rw [← map_itemAt?_placesFrom []] at listed
  obtain ⟨p, hp, at_p⟩ := List.mem_map.1 listed
  obtain ⟨found, hf, isRequest⟩ := mem_placesFrom_zero.1 hp
  obtain rfl := Option.some.inj (at_p.symm.trans hf)
  exact isRequest

/-- The method that is listed for an item. -/
def Item.listedMethod (item : Item) : String :=
  Unicode.Case.upperString ((item.request.map (·.method)).getD "")

namespace Console

/-- What a line of a listing shows of the method. -/
def methodPiece (item : Item) : Piece := ⟨item.listedMethod, some .bold, 7⟩

theorem listing_eq (colours : Bool) (c : Collection) :
    listing colours c = String.join (c.requests.map fun e =>
      (methodPiece e.2).render colours ++ (" " ++ joinPath e.1 e.2.name) ++ "\n") := by
  have plain (text : String) : (Piece.plain text).render colours = text := by
    simp [Piece.plain, Piece.render, Piece.fill]
  refine congrArg String.join (List.map_congr_left fun (breadcrumb, item) _ => ?_)
  dsimp only
  rw [listingLine, renderLine, List.map_cons, List.map_cons, List.map_nil, plain]
  simp [String.join, methodPiece, Item.listedMethod]

end Console

section Single

variable {α β : Type} {f : α → List β} {g : α → β} {l : List α}

theorem length_le_length_flatMap (some_text : ∀ a, f a ≠ []) : l.length ≤ (l.flatMap f).length := by
  induction l with
  | nil => exact Nat.le_refl 0
  | cons a rest ih =>
    have some_length := List.length_pos_iff.2 (some_text a)
    rw [List.flatMap_cons, List.length_append, List.length_cons]
    omega

/-- Texts for the members, none of them empty, are as long as the members are many only when each is
of length one. -/
theorem eq_singleton_of_flatMap_eq_map (some_text : ∀ a, f a ≠ [])
    (h : l.flatMap f = l.map g) : ∀ a ∈ l, f a = [g a] := by
  induction l with
  | nil => simp
  | cons a rest ih =>
    rw [List.flatMap_cons, List.map_cons] at h
    have lengths := congrArg List.length h
    have least : rest.length ≤ _ := length_le_length_flatMap some_text
    have some_length := List.length_pos_iff.2 (some_text a)
    rw [List.length_append, List.length_cons, List.length_map] at lengths
    have one : (f a).length = [g a].length := by
      rw [List.length_singleton]
      omega
    obtain ⟨here, later⟩ := List.append_inj (by simpa using h) one
    exact List.forall_mem_cons.2 ⟨here, ih later⟩

end Single

/-- All letters in capitals are the ASCII letters in capitals, and no blanks are lost, exactly when
there are no blanks at the ends and the other letters have no capital form. -/
theorem capitals_eq_toUpper_iff {m : List Char} :
    m.flatMap capital = (Text.trimChars m).map Char.toUpper ↔
      Text.Trimmed m ∧ ∀ c ∈ m, 128 ≤ c.toNat → capital c = [c] := by
  constructor
  · intro same
    have trimmed : Text.Trimmed m := by
      have lengths := congrArg List.length same
      rw [List.length_map] at lengths
      exact Text.trimmed_of_length_le (lengths ▸ length_le_length_flatMap capital_ne_nil)
    rw [Text.trimChars_eq_self_iff.2 trimmed] at same
    refine ⟨trimmed, fun c hc large => ?_⟩
    rw [eq_singleton_of_flatMap_eq_map capital_ne_nil same c hc, toUpper_of_not_ascii large]
  · rintro ⟨trimmed, other⟩
    have single : ∀ c ∈ m, capital c = [c.toUpper] := fun c hc => by
      by_cases ascii : c.toNat < 128
      · exact capital_of_ascii ascii
      · have large := Nat.le_of_not_lt ascii
        rw [other c hc large, toUpper_of_not_ascii large]
    rw [Text.trimChars_eq_self_iff.2 trimmed, List.flatMap_congr single]
    exact List.flatMap_pure_eq_map _ _

theorem flatMap_capital_of_blank {m : List Char} (blank : ∀ c ∈ m, Text.isBlank c = true) :
    m.flatMap capital = m := by
  rw [List.flatMap_congr fun c hc => capital_of_isBlank (blank c hc)]
  exact List.flatMap_singleton' m

/-- A method stands in a listing as it is sent exactly when it has characters, none of them a blank
at an end and none a letter outside ASCII with a capital form of its own. -/
theorem Request.upperString_method_iff (r : Request) :
    Unicode.Case.upperString r.method = r.effectiveMethod ↔
      r.method ≠ "" ∧ Text.Trimmed r.method.toList ∧
        ∀ c ∈ r.method.toList, 128 ≤ c.toNat → capital c = [c] := by
  have some_char : r.method ≠ "" ↔ r.method.toList ≠ [] := by simp
  rw [← String.toList_inj, toList_upperString, effectiveMethod, some_char, Text.trim]
  split
  · next nothing_left =>
    have nothing_left : Text.trimChars r.method.toList = [] := by simpa using nothing_left
    have blank := Text.trimChars_eq_nil_iff.1 nothing_left
    rw [flatMap_capital_of_blank blank]
    constructor
    · intro get
      have letter : 'G' ∈ r.method.toList := by simp [get]
      exact absurd (blank 'G' letter) (by decide)
    · rintro ⟨some_char, trimmed, -⟩
      exact absurd ((Text.trimChars_eq_self_iff.2 trimmed).symm.trans nothing_left) some_char
  · next some_left =>
    have some_char : r.method.toList ≠ [] := fun none => some_left (by rw [none]; rfl)
    rw [String.toUpper, String.toList_map, String.toList_ofList, capitals_eq_toUpper_iff]
    exact ⟨fun same => ⟨some_char, same⟩, fun same => same.2⟩

/-- A listing shows for each request the capital form of its method. With whatever variables the
request is sent, this is the method that is sent exactly when there are characters in it, none of
them a blank at an end and none a letter outside ASCII with a capital form of its own. -/
theorem listing_shows_sent_iff (c : Collection) :
    (∀ colours, Console.listing colours c = String.join (c.requests.map fun e =>
      (Console.methodPiece e.2).render colours ++ (" " ++ joinPath e.1 e.2.name) ++ "\n")) ∧
    ∀ e ∈ c.requests, ∃ r, e.2.request = some r ∧ ∀ s : Snapshot,
      ((Console.methodPiece e.2).text = (prepare r s).method ↔
        r.method ≠ "" ∧ Text.Trimmed r.method.toList ∧
          ∀ ch ∈ r.method.toList, 128 ≤ ch.toNat → capital ch = [ch]) := by
  refine ⟨fun colours => Console.listing_eq colours c, fun e he => ?_⟩
  have isRequest := Collection.isRequest_of_mem_requests he
  obtain ⟨r, hr⟩ : ∃ r, e.2.request = some r :=
    Option.isSome_iff_exists.1 (by simp_all [Item.isRequest])
  refine ⟨r, hr, fun s => ?_⟩
  simp only [Console.methodPiece, Item.listedMethod, hr, prepare, Option.map_some, Option.getD_some]
  exact r.upperString_method_iff

/-- A method in small letters is listed as it is sent. -/
theorem listing_shows_sent_get :
    let item : Item := { name := "Ping", request := some { method := "get" } }
    let c : Collection := { items := [item] }
    ([], item) ∈ c.requests ∧ ∀ s : Snapshot,
      (Console.methodPiece item).text = (prepare { method := "get" } s).method := by
  intro item c
  have listed : ([], item) ∈ c.requests := List.mem_singleton.2 rfl
  obtain ⟨r, hr, same⟩ := (listing_shows_sent_iff c).2 ([], item) listed
  obtain rfl := Option.some.inj hr
  have trimmed : Text.Trimmed "get".toList := Text.trimChars_eq_self_iff.1 (by decide)
  have ascii : ∀ ch ∈ "get".toList, ch.toNat < 128 := by simp
  exact ⟨listed, fun s => (same s).2 ⟨by decide, trimmed, fun ch hch large =>
    absurd (ascii ch hch) (Nat.not_lt.2 large)⟩⟩

/-- For a request without a method the listing has none, and `GET` is sent. -/
theorem listing_omits_get :
    let request : Request := { address := { raw := "http://x.test/" } }
    let item : Item := { name := "Ping", request := some request }
    let c : Collection := { items := [item] }
    ([], item) ∈ c.requests ∧ (Console.methodPiece item).text = "" ∧
      Console.listing false c = "        Ping\n" ∧
      ∀ s : Snapshot, (prepare request s).method = "GET" := by
  intro request item c
  exact ⟨List.mem_singleton.2 rfl, by decide +kernel, by decide +kernel, fun s => by
    simp only [prepare]
    decide +kernel⟩

end CollectionRunner
