import ChatFlow.Proofs.Source.Image
import Mathlib.Data.List.DropRight

/-!
# Messages and the texts they are made of

A message is made of the texts of its definition, with a line feed between each
two of them.  Since no text holds a line feed, the texts are found again by
cutting the message there.  The exception is at the start: whether a line feed
is due is told by what the message holds so far, so the empty texts before the
first that is not are lost.
-/

namespace ChatFlow

namespace Text

/-- What stands between the line feeds of a text. -/
def rows (text : String) : List String :=
  (stretches text.toList).map String.ofList

theorem intercalate_rows (text : String) : "\n".intercalate (rows text) = text := by
  have hstretches : (rows text).map String.toList = stretches text.toList := by
    simp [rows, Function.comp_def]
  rw [← String.toList_inj, String.toList_intercalate, hstretches]
  exact intercalate_stretches text.toList

theorem rows_intercalate {texts : List String} (hfeed : ∀ text ∈ texts, '\n' ∉ text.toList)
    (hsome : texts ≠ []) : rows ("\n".intercalate texts) = texts := by
  have hstretches : stretches (['\n'].intercalate (texts.map String.toList)) =
      texts.map String.toList := by
    apply stretches_intercalate
    · simpa using hfeed
    · simpa using hsome
  rw [rows, String.toList_intercalate]
  exact (congrArg (List.map String.ofList) hstretches).trans (by simp [Function.comp_def])

end Text

namespace Source

open ChatFlow.Text

theorem dropWhile_isEmpty_eq_self_iff (texts : List String) :
    texts.dropWhile (·.isEmpty) = texts ↔ texts.head? ≠ some "" := by
  rw [List.dropWhile_eq_self_iff]
  cases texts <;> simp

/-- The empty texts at the start and the others. -/
theorem exists_eq_replicate_append (texts : List String) :
    ∃ lost, texts = List.replicate lost "" ++ texts.dropWhile (·.isEmpty) := by
  have hlost : texts.takeWhile (·.isEmpty) =
      List.replicate (texts.takeWhile (·.isEmpty)).length "" := by
    apply List.eq_replicate_of_mem
    intro text hmem
    exact String.isEmpty_iff.mp (List.mem_takeWhile_imp hmem)
  refine ⟨(texts.takeWhile (·.isEmpty)).length, ?_⟩
  rw [← hlost, List.takeWhile_append_dropWhile]

/-- Cutting the message gives the texts from the first that is not empty on. -/
theorem Definition.rows_message {source : String} {definition : Definition}
    (hmem : definition ∈ definitions (readLines source)) (hspeaks : definition.Speaks) :
    rows definition.message = definition.texts.dropWhile (·.isEmpty) := by
  unfold message joined
  apply rows_intercalate
  · intro text htext
    exact feed_not_mem_texts hmem ((List.dropWhile_sublist _).mem htext)
  · intro hnil
    obtain ⟨text, htext, hne⟩ := hspeaks
    exact hne (String.isEmpty_iff.mp (List.dropWhile_eq_nil_iff.mp hnil text htext))

namespace Compilation

/-- The texts of the definition that gave a flow are the rows of its message,
with empty texts before them that are lost.  So the message is all the texts
with a line feed between each two, and the rows of it are all the texts, if and
only if the first text is not empty. -/
theorem message_keeps_texts_iff {source name : String} {node : Node}
    (hnode : (ofSource source).program.get? name = some node) :
    ∃ definition, effective? name (definitions (readLines source)) = some definition ∧
      (∃ lost, definition.texts = List.replicate lost "" ++ rows node.message) ∧
      (rows node.message).head? ≠ some "" ∧
      (node.message = "\n".intercalate definition.texts ↔ definition.texts.head? ≠ some "") ∧
      (rows node.message = definition.texts ↔ definition.texts.head? ≠ some "") := by
  rw [(get?_ofSource source name).1] at hnode
  obtain ⟨definition, heffective, rfl⟩ := Option.map_eq_some_iff.mp hnode
  obtain ⟨hmem, -, hspeaks⟩ := name_of_effective? heffective
  have hrows : rows definition.node.message = definition.texts.dropWhile (·.isEmpty) :=
    Definition.rows_message hmem hspeaks
  have hall : rows definition.node.message = definition.texts ↔
      definition.texts.head? ≠ some "" := by
    rw [hrows, dropWhile_isEmpty_eq_self_iff]
  refine ⟨definition, heffective, ?_, ?_, ?_, hall⟩
  · rw [hrows]
    exact exists_eq_replicate_append definition.texts
  · rw [← dropWhile_isEmpty_eq_self_iff, hrows, List.dropWhile_idempotent]
  · rw [← hall]
    constructor
    · intro hmessage
      rw [hmessage]
      apply rows_intercalate
      · exact fun text htext => Definition.feed_not_mem_texts hmem htext
      · obtain ⟨text, htext, -⟩ := hspeaks
        exact List.ne_nil_of_mem htext
    · intro hsame
      rw [← hsame, intercalate_rows]

/-- Empty texts in the middle and at the end are kept, also where the block of
the message is opened again. -/
theorem message_keeps_texts_iff_reopened :
    let source := "inicio:\nmensagem:\n\"Oi\"\n\"\"\nbotao 1:\n\"Ir\" -> nada\n" ++
      "mensagem:\n\"Tchau\"\n\"\"\n"
    ∃ definition, effective? entryName (definitions (readLines source)) = some definition ∧
      rows "Oi\n\nTchau\n" = definition.texts := by
  intro source
  have hnode : (ofSource source).program.get? entryName =
      some ⟨entryName, "Oi\n\nTchau\n", [⟨"Ir", "nada"⟩]⟩ := by decide +kernel
  have htexts : (effective? entryName (definitions (readLines source))).map Definition.texts =
      some ["Oi", "", "Tchau", ""] := by decide +kernel
  obtain ⟨definition, heffective, -, -, -, hrows⟩ := message_keeps_texts_iff hnode
  rw [heffective] at htexts
  refine ⟨definition, heffective, hrows.mpr ?_⟩
  rw [Option.some.inj htexts]
  decide

/-- Not every message is made of all texts of its definition: a row that was left
empty at its start is lost here. -/
theorem exists_message_without_first_text :
    ¬ ∀ (source name : String) (node : Node),
      (ofSource source).program.get? name = some node →
        ∃ definition, effective? name (definitions (readLines source)) = some definition ∧
          node.message = "\n".intercalate definition.texts := by
  intro hall
  let source := "inicio:\nmensagem:\n\"\"\n\"Oi\"\n"
  have htexts : (effective? entryName (definitions (readLines source))).map Definition.texts =
      some ["", "Oi"] := by decide +kernel
  obtain ⟨definition, heffective, hmessage⟩ :=
    hall source entryName ⟨entryName, "Oi", []⟩ (by decide +kernel)
  rw [heffective] at htexts
  rw [Option.some.inj htexts] at hmessage
  revert hmessage
  decide +kernel

end Compilation

end Source

end ChatFlow
