import ChatFlow.Text.Placeholder
import Mathlib.Data.List.Infix

/-!
# Names in filled-in templates

A name stands in the filled-in template as it is, whatever it is made of, if the
template has a placeholder for it.

No two placeholders share a character, so a template is cut by them into pieces
in one way only.  Filling in a name puts it between each two of the pieces.
-/

namespace ChatFlow.Text

theorem hasPlaceholder_iff (text : List Char) :
    hasPlaceholder text = true ↔ placeholder <:+: text := by
  induction text with
  | nil => simp [hasPlaceholder, placeholder]
  | cons c rest ih =>
      rw [hasPlaceholder, Bool.or_eq_true, ih, List.isPrefixOf_iff_prefix, List.infix_cons_iff]

theorem isPrefixOf?_placeholder_eq_none_iff (text : List Char) :
    List.isPrefixOf? placeholder text = none ↔ ¬ placeholder <+: text := by
  rw [Option.eq_none_iff_forall_ne_some]
  simp only [ne_eq, List.isPrefixOf?_eq_some_iff_append_eq]
  exact not_exists.symm

theorem infix_fillIn (name : List Char) {template : List Char}
    (hmark : hasPlaceholder template = true) : name <:+: fillIn name template := by
  fun_induction fillIn name template with
  | case1 template rest hrest ih => exact (List.prefix_append name _).isInfix
  | case2 hnone => simp [hasPlaceholder] at hmark
  | case3 c rest hnone ih =>
      -- No placeholder starts here, so one occurs further on.
      have hlater : hasPlaceholder rest = true := by
        rw [hasPlaceholder, Bool.or_eq_true] at hmark
        refine hmark.resolve_left fun hstart => ?_
        exact (isPrefixOf?_placeholder_eq_none_iff _).mp hnone
          (List.isPrefixOf_iff_prefix.mp hstart)
      exact (ih hlater).trans (List.suffix_cons c _).isInfix

/-! ## Where placeholders stand -/

theorem eq_zero_of_getElem?_placeholder {i : Nat} (hbrace : placeholder[i]? = some '{') :
    i = 0 := by
  cases i with
  | zero => rfl
  | succ i =>
      have hmem : '{' ∈ placeholder.tail := List.mem_of_getElem? (i := i) hbrace
      exact absurd hmem (by decide)

/-- A placeholder that starts in a text before another one also ends before it. -/
theorem prefix_of_prefix_append {before after : List Char} (hsome : before ≠ [])
    (hstart : placeholder <+: before ++ (placeholder ++ after)) : placeholder <+: before := by
  by_cases hlength : placeholder.length ≤ before.length
  · exact List.prefix_of_prefix_length_le hstart (List.prefix_append before _) hlength
  · -- It would hold the brace that opens the other one, but not as its first character.
    have hinside : before.length < placeholder.length := Nat.lt_of_not_le hlength
    have hsame := hstart.getElem hinside
    have hbrace : placeholder[before.length]? = some '{' := by
      rw [List.getElem?_eq_getElem hinside, hsame]
      simp [placeholder]
    have hnil := eq_zero_of_getElem?_placeholder hbrace
    exact absurd (List.length_eq_zero_iff.mp hnil) hsome

/-- The number of places of a text where a placeholder starts. -/
def placeholders (text : List Char) : Nat :=
  text.tails.countP (placeholder.isPrefixOf ·)

theorem placeholders_cons {c : Char} {text : List Char} (hnot : ¬ placeholder <+: c :: text) :
    placeholders (c :: text) = placeholders text := by
  rw [← List.isPrefixOf_iff_prefix] at hnot
  rw [placeholders, List.tails_cons, List.countP_cons_of_neg hnot, placeholders]

theorem placeholders_append (text : List Char) :
    placeholders (placeholder ++ text) = placeholders text + 1 := by
  simp [placeholders, placeholder]

/-! ## Pieces -/

/-- What stands between the placeholders of a text; there is always one piece. -/
def pieces (text : List Char) : List (List Char) :=
  match _after : List.isPrefixOf? placeholder text with
  | some rest => [] :: pieces rest
  | none =>
      match text with
      | [] => [[]]
      | c :: rest => (pieces rest).modifyHead (c :: ·)
termination_by text.length
decreasing_by
  · have hlength := length_after_prefix _after
    have hmark : placeholder.length = 6 := by decide
    omega
  · simp

theorem pieces_ne_nil (text : List Char) : pieces text ≠ [] := by
  fun_induction pieces text with
  | case1 => simp
  | case2 => simp
  | case3 c rest hnone ih => simpa using ih

@[simp] theorem pieces_nil : pieces [] = [[]] := by
  rw [pieces]
  split
  · next rest hrest =>
    have happend := List.isPrefixOf?_eq_some_iff_append_eq.mp hrest
    exact absurd (List.append_eq_nil_iff.mp happend).1 (by decide)
  · rfl

theorem pieces_append (text : List Char) :
    pieces (placeholder ++ text) = [] :: pieces text := by
  rw [pieces]
  split
  · next rest hrest =>
    rw [List.isPrefixOf?_eq_some_iff_append_eq, List.append_cancel_left_eq] at hrest
    rw [hrest]
  · next hnone =>
    rw [List.isPrefixOf?_eq_some_iff_append_eq.mpr rfl] at hnone
    contradiction

theorem pieces_cons {c : Char} {text first : List Char} {others : List (List Char)}
    (hnot : ¬ placeholder <+: c :: text) (htext : pieces text = first :: others) :
    pieces (c :: text) = (c :: first) :: others := by
  rw [pieces]
  split
  · next rest hrest =>
    exact absurd ⟨rest, List.isPrefixOf?_eq_some_iff_append_eq.mp hrest⟩ hnot
  · exact (congrArg (List.modifyHead (c :: ·)) htext).trans List.modifyHead_cons

/-- The pieces with a placeholder between each two of them are the text. -/
theorem intercalate_pieces (text : List Char) : placeholder.intercalate (pieces text) = text := by
  fun_induction pieces text with
  | case1 text rest hrest ih =>
      rw [List.intercalate_cons_of_ne_nil (pieces_ne_nil rest), ih, List.nil_append]
      exact List.isPrefixOf?_eq_some_iff_append_eq.mp hrest
  | case2 => rfl
  | case3 c rest hnone ih =>
      obtain ⟨first, others, hfirst⟩ := List.exists_cons_of_ne_nil (pieces_ne_nil rest)
      rw [hfirst] at ih
      rw [hfirst, List.modifyHead_cons, List.intercalate_cons_cons_left, ih]

theorem prefix_of_pieces_eq {text first : List Char} {others : List (List Char)}
    (htext : pieces text = first :: others) : first <+: text := by
  rw [← intercalate_pieces text, htext]
  cases others with
  | nil => rw [List.intercalate_singleton]
  | cons next others =>
      rw [List.intercalate_cons_cons, List.append_assoc]
      exact List.prefix_append first _

theorem not_infix_of_mem_pieces {text piece : List Char} (hmem : piece ∈ pieces text) :
    ¬ placeholder <:+: piece := by
  fun_induction pieces text generalizing piece with
  | case1 text rest hrest ih =>
      rcases List.mem_cons.mp hmem with rfl | hmem
      · decide
      · exact ih hmem
  | case2 =>
      rw [List.mem_singleton.mp hmem]
      decide
  | case3 c rest hnone ih =>
      obtain ⟨first, others, hfirst⟩ := List.exists_cons_of_ne_nil (pieces_ne_nil rest)
      rw [hfirst] at hmem ih
      rcases List.mem_cons.mp hmem with rfl | hmem
      · intro hinfix
        rcases List.infix_cons_iff.mp hinfix with hstart | hlater
        · have hprefix : c :: first <+: c :: rest :=
            List.cons_prefix_cons.mpr ⟨rfl, prefix_of_pieces_eq hfirst⟩
          exact (isPrefixOf?_placeholder_eq_none_iff _).mp hnone (hstart.trans hprefix)
        · exact ih List.mem_cons_self hlater
      · exact ih (List.mem_cons_of_mem _ hmem)

theorem pieces_append_placeholder {piece : List Char} (hfree : ¬ placeholder <:+: piece)
    (after : List Char) : pieces (piece ++ (placeholder ++ after)) = piece :: pieces after := by
  induction piece with
  | nil => exact pieces_append after
  | cons c piece ih =>
      have hpiece : ¬ placeholder <:+: piece := fun hinfix => hfree (List.infix_cons hinfix)
      apply pieces_cons _ (ih hpiece)
      intro hstart
      exact hfree (prefix_of_prefix_append (List.cons_ne_nil c piece) hstart).isInfix

theorem pieces_of_not_infix {piece : List Char} (hfree : ¬ placeholder <:+: piece) :
    pieces piece = [piece] := by
  induction piece with
  | nil => exact pieces_nil
  | cons c piece ih =>
      have hpiece : ¬ placeholder <:+: piece := fun hinfix => hfree (List.infix_cons hinfix)
      exact pieces_cons (fun hstart => hfree hstart.isInfix) (ih hpiece)

theorem pieces_intercalate {parts : List (List Char)}
    (hfree : ∀ part ∈ parts, ¬ placeholder <:+: part) (hsome : parts ≠ []) :
    pieces (placeholder.intercalate parts) = parts := by
  induction parts with
  | nil => contradiction
  | cons part parts ih =>
      have hpart : ¬ placeholder <:+: part := hfree part List.mem_cons_self
      cases parts with
      | nil => rw [List.intercalate_singleton, pieces_of_not_infix hpart]
      | cons next rest =>
          have hrest := ih (fun other hmem => hfree other (List.mem_cons_of_mem _ hmem))
            (List.cons_ne_nil next rest)
          rw [List.intercalate_cons_cons, List.append_assoc, pieces_append_placeholder hpart,
            hrest]

theorem length_pieces (text : List Char) : (pieces text).length = placeholders text + 1 := by
  fun_induction pieces text with
  | case1 text rest hrest ih =>
      rw [← List.isPrefixOf?_eq_some_iff_append_eq.mp hrest, placeholders_append,
        List.length_cons, ih]
  | case2 => decide
  | case3 c rest hnone ih =>
      have hnot := (isPrefixOf?_placeholder_eq_none_iff _).mp hnone
      rw [List.length_modifyHead, ih, placeholders_cons hnot]

theorem fillIn_eq_intercalate (name template : List Char) :
    fillIn name template = name.intercalate (pieces template) := by
  fun_induction fillIn name template with
  | case1 template rest hrest ih =>
      rw [← List.isPrefixOf?_eq_some_iff_append_eq.mp hrest, pieces_append, ih,
        List.intercalate_cons_of_ne_nil (pieces_ne_nil rest), List.nil_append]
  | case2 hnone => rw [pieces_nil, List.intercalate_singleton]
  | case3 c rest hnone ih =>
      have hnot := (isPrefixOf?_placeholder_eq_none_iff _).mp hnone
      obtain ⟨first, others, hfirst⟩ := List.exists_cons_of_ne_nil (pieces_ne_nil rest)
      rw [pieces_cons hnot hfirst, List.intercalate_cons_cons_left, ih, hfirst]

end ChatFlow.Text
