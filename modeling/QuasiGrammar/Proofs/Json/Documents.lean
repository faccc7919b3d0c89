import QuasiGrammar.Document
import QuasiGrammar.Proofs.Json.Reading

/-
  QuasiGrammar.Proofs.Json.Documents
  ──────────────────────────────────
  **The text of a document is the document.**

  A document is a textual value, and its fields can be told from that value; so
  the text that is published is JSON, is read back as what was written, and
  names one document only.
-/

namespace QuasiGrammar

open Json

theorem Pattern.textual_capture (scope : String) : Textual (capture scope) :=
  .object (by simp) (by simpa using .text scope)

theorem Pattern.textual_inclusion (scope : String) : Textual (inclusion scope) :=
  .object (by simp) (by simpa using .text scope)

theorem Pattern.textual_toJson (p : Pattern) : Textual p.toJson := by
  have hbegin : Textual (.object [("1", capture tagScope), ("2", capture openingScope)]) := by
    refine .object (by decide) ?_
    rw [List.forall_mem_cons, List.forall_mem_singleton]
    exact ⟨textual_capture tagScope, textual_capture openingScope⟩
  have hend : Textual (.object [("1", capture closingScope)]) :=
    .object (by decide) (List.forall_mem_singleton.2 (textual_capture closingScope))
  have hinner : Textual (.array [inclusion p.nestedInclude, inclusion p.includeScope]) := by
    refine .array ?_
    rw [List.forall_mem_cons, List.forall_mem_singleton]
    exact ⟨textual_inclusion _, textual_inclusion _⟩
  refine .object (show ["contentName", "begin", "beginCaptures", "end", "endCaptures",
    "patterns"].Nodup by decide) ?_
  simp only [List.forall_mem_cons]
  exact ⟨.text _, .text _, hbegin, .text _, hend, hinner, fun _ h => nomatch h⟩

theorem Pattern.toJson_injective {p q : Pattern} (h : p.toJson = q.toJson) : p = q := by
  cases p
  cases q
  simp only [toJson, inclusion, Json.object.injEq, Json.array.injEq, Json.text.injEq,
    List.cons.injEq, Prod.mk.injEq, and_true, true_and] at h
  obtain ⟨rfl, rfl, rfl, rfl, rfl⟩ := h
  rfl

namespace Document

theorem textual_toJson (d : Document) : Textual d.toJson := by
  have hfiles : Textual (.array (d.fileTypes.map .text)) := by
    refine .array fun v hv => ?_
    obtain ⟨s, -, rfl⟩ := List.mem_map.1 hv
    exact .text s
  have hpatterns : Textual (.array (d.patterns.map Pattern.toJson)) := by
    refine .array fun v hv => ?_
    obtain ⟨p, -, rfl⟩ := List.mem_map.1 hv
    exact p.textual_toJson
  refine .object (show ["name", "comment", "scopeName", "fileTypes", "patterns"].Nodup by decide) ?_
  simp only [List.forall_mem_cons]
  exact ⟨.text _, .text _, .text _, hfiles, hpatterns, fun _ h => nomatch h⟩

theorem toJson_injective {d e : Document} (h : d.toJson = e.toJson) : d = e := by
  cases d
  cases e
  simp only [toJson, Json.object.injEq, Json.array.injEq, Json.text.injEq, List.cons.injEq,
    Prod.mk.injEq, and_true, true_and] at h
  obtain ⟨rfl, rfl, rfl, hfiles, hpatterns⟩ := h
  rw [(List.map_inj_right fun _ _ => Json.text.inj).1 hfiles,
    (List.map_inj_right fun _ _ => Pattern.toJson_injective).1 hpatterns]

/-- **The text of a document loses nothing.**  It is one JSON object and a line feed; reading it
gives the value of the document, with all fields in their order; and no other document has it. -/
theorem text_loses_nothing (d : Document) :
    (∃ body, d.text.toList = '\x7b' :: body ++ ['\x7d', '\n'] ∧
      ValueForm ('\x7b' :: body ++ ['\x7d'])) ∧
      Json.read? d.text = some d.toJson ∧ ∀ e : Document, e.text = d.text → e = d := by
  have hread : ∀ e : Document, Json.read? e.text = some e.toJson :=
    fun e => e.textual_toJson.read?_pretty
  refine ⟨?_, hread d, ?_⟩
  · have hvalue := d.textual_toJson.valueForm 0
    rw [toJson, prettyAt_object] at hvalue
    refine ⟨_, ?_, hvalue⟩
    simp [text, pretty, toJson, prettyAt_object]
  · intro e htext
    have hsame := hread e
    rw [htext, hread d, Option.some.injEq] at hsame
    exact toJson_injective hsame.symm

end Document

end QuasiGrammar
