import ChatFlow.Proofs.Text.Placeholder
import ChatFlow.Session.Options
import Mathlib.Tactic.Ring

/-!
# Confirmations

A confirmation is made of the pieces that the placeholders cut its template into,
with the name between each two of them.  What a name is made of plays no part in
that: one that looks like a placeholder, or makes one together with the text
around it, stands there as it is.  So a confirmation is longer than its template,
or shorter, by as much as the name is for each placeholder.
-/

namespace ChatFlow

namespace Text

/-- The texts that a template holds around its placeholders.  There is one more
of them than there are placeholders, so the empty template has one too. -/
structure PiecesOf (template : String) (parts : List String) : Prop where
  nonempty : parts ≠ []
  unmarked : ∀ part ∈ parts, ¬ placeholder <:+: part.toList
  joined : "{name}".intercalate parts = template

theorem PiecesOf.toList_eq {template : String} {parts : List String}
    (hparts : PiecesOf template parts) : parts.map String.toList = pieces template.toList := by
  rw [← hparts.joined, String.toList_intercalate]
  refine (pieces_intercalate ?_ ?_).symm
  · simpa using hparts.unmarked
  · simpa using hparts.nonempty

theorem piecesOf_pieces (template : String) :
    PiecesOf template ((pieces template.toList).map String.ofList) where
  nonempty := by simpa using pieces_ne_nil template.toList
  unmarked := by
    intro part hmem
    obtain ⟨piece, hpiece, rfl⟩ := List.mem_map.mp hmem
    rw [String.toList_ofList]
    exact not_infix_of_mem_pieces hpiece
  joined := by
    have hpieces : ((pieces template.toList).map String.ofList).map String.toList =
        pieces template.toList := by
      simp [Function.comp_def]
    rw [← String.toList_inj, String.toList_intercalate, hpieces]
    exact intercalate_pieces template.toList

theorem existsUnique_piecesOf (template : String) : ∃! parts, PiecesOf template parts := by
  refine ⟨_, piecesOf_pieces template, fun parts hparts => ?_⟩
  rw [← hparts.toList_eq, List.map_map]
  simp [Function.comp_def]

theorem PiecesOf.length_eq {template : String} {parts : List String}
    (hparts : PiecesOf template parts) :
    parts.length = placeholders template.toList + 1 := by
  rw [← length_pieces, ← hparts.toList_eq, List.length_map]

/-- Filled in with another text, a template grows by as much as that text is
longer than the mark, once for each place between two parts. -/
theorem size_intercalate {size : String → Nat}
    (happend : ∀ front back, size (front ++ back) = size front + size back)
    (mark name first : String) (others : List String) :
    (size (name.intercalate (first :: others)) : Int) =
      size (mark.intercalate (first :: others)) + others.length * (size name - size mark) := by
  induction others generalizing first with
  | nil => simp
  | cons next others ih =>
      simp only [String.intercalate_cons_cons, happend, Nat.cast_add, ih next,
        List.length_cons, Nat.cast_one]
      ring

end Text

namespace Messages

open ChatFlow.Text

theorem confirmation_eq_intercalate (messages : Messages) {parts : List String}
    (hparts : PiecesOf messages.captureConfirmation parts) (name : String) :
    messages.confirmation name = name.intercalate parts := by
  rw [confirmation, fillIn_eq_intercalate, ← hparts.toList_eq, ← String.toList_intercalate,
    String.ofList_toList]

theorem size_confirmation (messages : Messages) {size : String → Nat}
    (happend : ∀ front back, size (front ++ back) = size front + size back) (name : String) :
    (size (messages.confirmation name) : Int) =
      size messages.captureConfirmation +
        placeholders messages.captureConfirmation.toList * (size name - size "{name}") := by
  have hparts := piecesOf_pieces messages.captureConfirmation
  obtain ⟨first, others, hfirst⟩ := List.exists_cons_of_ne_nil hparts.nonempty
  rw [hfirst] at hparts
  have hlength : others.length = placeholders messages.captureConfirmation.toList := by
    simpa using hparts.length_eq
  rw [confirmation_eq_intercalate messages hparts, size_intercalate happend "{name}", hparts.joined,
    hlength]

/-- A template is cut into pieces by its placeholders in one way only, and a
confirmation is those pieces with the name between each two of them.  So the
placeholder for a name gives back the template, and each placeholder adds to the
length what the name is longer than it is, in characters and in bytes. -/
theorem confirmation_fills_each_placeholder_once (messages : Messages) :
    let template := messages.captureConfirmation
    (∃! parts, PiecesOf template parts) ∧
      (∀ parts, PiecesOf template parts →
        parts.length = placeholders template.toList + 1 ∧
          ∀ name, messages.confirmation name = name.intercalate parts) ∧
      messages.confirmation "{name}" = template ∧
      ∀ name,
        ((messages.confirmation name).length : Int) =
            template.length + placeholders template.toList * (name.length - "{name}".length) ∧
          ((messages.confirmation name).utf8ByteSize : Int) =
            template.utf8ByteSize +
              placeholders template.toList * (name.utf8ByteSize - "{name}".utf8ByteSize) := by
  intro template
  refine ⟨existsUnique_piecesOf template, fun parts hparts => ?_, ?_, fun name => ?_⟩
  · exact ⟨hparts.length_eq, messages.confirmation_eq_intercalate hparts⟩
  · have hparts := piecesOf_pieces template
    exact (messages.confirmation_eq_intercalate hparts "{name}").trans hparts.joined
  · exact ⟨messages.size_confirmation String.length_append name,
      messages.size_confirmation (fun _ _ => String.utf8ByteSize_append) name⟩

/-- Braces around a placeholder are no placeholder, and an empty name that makes
them one is not filled in again. -/
theorem confirmation_fills_each_placeholder_once_nested :
    let template := "\x7b{name}name\x7d, {name}!"
    PiecesOf template ["\x7b", "name\x7d, ", "!"] ∧
      ({ captureConfirmation := template } : Messages).confirmation "" = "{name}, !" := by
  intro template
  have hparts : PiecesOf template ["\x7b", "name\x7d, ", "!"] :=
    { nonempty := by decide
      unmarked := by decide
      joined := by decide +kernel }
  refine ⟨hparts, ?_⟩
  have hfilled := (confirmation_fills_each_placeholder_once
    { captureConfirmation := template }).2.1 _ hparts
  rw [hfilled.2 ""]
  decide +kernel

end Messages

end ChatFlow
