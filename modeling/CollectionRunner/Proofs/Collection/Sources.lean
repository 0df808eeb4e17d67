import CollectionRunner.Proofs.Collection.Spellings
import CollectionRunner.Proofs.Json.Parts
import CollectionRunner.Proofs.Text.LineFeeds

namespace CollectionRunner

open Json Encode Decoder

variable {phase : Phase} {s : String} {n : Node}

/-- The text of the script of an event, where it is one text and not a list of lines. -/
def Json.Node.sourceText? (n : Node) : Option String :=
  (n.part? "script" 1).bind (·.partText? "exec" 0)

theorem Phase.ofTag?_tag (phase : Phase) : Phase.ofTag? phase.tag = some phase := by
  cases phase <;> decide

theorem Script.lines_of_exec {script : Script} (h : Script.decode n = .ok script)
    (hs : n.partText? "exec" 0 = some s) : script.lines = Text.lines s := by
  obtain ⟨span, there⟩ := Node.part?_of_partText? hs
  refine Decides.record Script.lines ⟨⟨_, rfl, fun r r' hr => ?_⟩,
    fun field hf other r n r' hr => ?_, by simp⟩ there h
  · obtain ⟨lines, read, rfl⟩ := eq_made_of_ok hr
    exact (Except.ok.inj read).symm
  · rcases List.mem_pair.1 hf with rfl | rfl
    · exact absurd rfl other
    · obtain ⟨kind, -, rfl⟩ := eq_made_of_ok hr
      rfl

theorem Event.lines_of_sourceText? {e : Event} (h : Event.decode n = .ok e)
    (hs : n.sourceText? = some s) : e.script.lines = Text.lines s := by
  obtain ⟨part, there, text⟩ := Option.bind_eq_some_iff.1 hs
  refine Decides.record (fun e : Event => e.script.lines) ⟨⟨_, rfl, fun r r' hr => ?_⟩,
    fun field hf other r n r' hr => ?_, by simp⟩ there h
  · obtain ⟨script, read, rfl⟩ := eq_made_of_ok hr
    exact Script.lines_of_exec read text
  · rcases List.mem_pair.1 hf with rfl | rfl
    · obtain ⟨tag, -, rfl⟩ := eq_made_of_ok hr
      rfl
    · exact absurd rfl other

theorem Event.listen_of_part {e : Event} (h : Event.decode n = .ok e)
    (hs : n.partText? "listen" 0 = some s) : e.listen = s := by
  obtain ⟨span, there⟩ := Node.part?_of_partText? hs
  refine Decides.record Event.listen ⟨⟨_, rfl, fun r r' hr => ?_⟩,
    fun field hf other r n r' hr => ?_, by simp⟩ there h
  · obtain ⟨tag, read, rfl⟩ := eq_made_of_ok hr
    exact (Except.ok.inj read).symm
  · rcases List.mem_pair.1 hf with rfl | rfl
    · exact absurd rfl other
    · obtain ⟨script, -, rfl⟩ := eq_made_of_ok hr
      rfl

/-- An event as it is written with the text of its script as one string. -/
def Event.encodeText (phase : Phase) (s : String) (kind : Option String) : Value :=
  .ofFields [("listen", text phase.tag),
    ("script", .ofFields ([("exec", text s)] ++ Encode.optional "type" text kind))]

theorem Event.decode_encodeText (phase : Phase) (s : String) (kind : Option String) :
    Event.decode (Node.ofValue (Event.encodeText phase s kind)) =
      .ok ⟨phase.tag, ⟨Text.lines s, kind⟩⟩ := by
  have inner : Value.ofFields ([("exec", text s)] ++ Encode.optional "type" text kind) =
      .object (("exec", text s) :: (Encode.optional "type" text kind ++ [])) := by
    cases kind <;> simp (disch := decide) [Value.ofFields, Encode.optional]
  have script : Script.decode (Node.ofValue
      (.ofFields ([("exec", text s)] ++ Encode.optional "type" text kind))) =
        .ok ⟨Text.lines s, kind⟩ :=
    record_ofFields inner (.field rfl (Decode.parts_text s) <|
      .optional rfl (fun _ _ => rfl) rfl .nil) (by simp)
  have outer : Event.encodeText phase s kind = .object [("listen", text phase.tag),
      ("script", .ofFields ([("exec", text s)] ++ Encode.optional "type" text kind))] := by
    simp (disch := decide) [Event.encodeText, Value.ofFields]
  exact record_ofFields outer (.field rfl rfl <| .field rfl script .nil) (by simp)

theorem Script.source_of_lines {script : Script} (h : script.lines = Text.lines s) :
    script.source = Text.plainFeeds s := by
  rw [Script.source, h, Text.intercalate_lines_feed]

theorem Event.phase?_of_listen {e : Event} (h : e.listen = phase.tag) :
    e.phase? = some phase := by
  rw [Event.phase?, h, phase.ofTag?_tag]

/-- An event made of a text, the same event written and read back, and every event that is read with
the text for its script have one source: the text with line feeds alone and without the one at its
end. What was made for a phase, or is read with the name of the phase, runs in that phase. -/
theorem Event.sources_agree (phase : Phase) (s : String) :
    ((Event.ofSource phase s).script.source = Text.plainFeeds s ∧
      (Event.ofSource phase s).phase? = some phase) ∧
    Event.decode (Node.ofValue (Event.ofSource phase s).encode) =
      .ok (Event.ofSource phase s) ∧
    (∀ kind, ∃ e, Event.decode (Node.ofValue (Event.encodeText phase s kind)) = .ok e ∧
      e.script.source = Text.plainFeeds s ∧ e.phase? = some phase) ∧
    ∀ n e, Event.decode n = .ok e →
      (n.sourceText? = some s → e.script.source = Text.plainFeeds s) ∧
      (n.partText? "listen" 0 = some phase.tag → e.phase? = some phase) := by
  refine ⟨⟨Script.source_of_lines rfl, Event.phase?_of_listen rfl⟩, Event.decode_encode _,
    fun kind => ?_, fun n e read => ⟨fun h => ?_, fun h => ?_⟩⟩
  · exact ⟨_, Event.decode_encodeText phase s kind, Script.source_of_lines rfl,
      Event.phase?_of_listen rfl⟩
  · exact Script.source_of_lines (Event.lines_of_sourceText? read h)
  · exact Event.phase?_of_listen (Event.listen_of_part read h)

/-- An event with a field that is not known, and a script of two lines that both end with a carriage
return and a line feed. -/
theorem Event.sources_agree_twoLines :
    let n := Node.ofValue (.object [("id", text "1"), ("listen", text "test"),
      ("script", .object [("exec", text "a();\r\nb();\r\n")])])
    ∃ e, Event.decode n = .ok e ∧ n.sourceText? = some "a();\r\nb();\r\n" ∧
      n.partText? "listen" 0 = some Phase.test.tag ∧
      e.script.source = "a();\nb();" ∧ e.phase? = some .test := by
  intro n
  have read : Event.decode n =
      .ok ⟨"test", ⟨Text.lines "a();\r\nb();\r\n", none⟩⟩ := by rfl
  have source : n.sourceText? = some "a();\r\nb();\r\n" := by decide +kernel
  have listen : n.partText? "listen" 0 = some Phase.test.tag := by decide +kernel
  obtain ⟨-, -, -, agree⟩ := Event.sources_agree .test "a();\r\nb();\r\n"
  have plain : Text.plainFeeds "a();\r\nb();\r\n" = "a();\nb();" := by decide +kernel
  exact ⟨_, read, source, listen, ((agree n _ read).1 source).trans plain,
    (agree n _ read).2 listen⟩

end CollectionRunner
