import ChatFlow.Proofs.Source.Concatenation
import ChatFlow.Proofs.Source.Notes

/-!
# How meaningful lines are numbered

A meaningful line has the number of its row in the source, whatever stands in
the other rows: blank rows and comments are counted, too, and nothing else is
left out.  So the numbers increase from line to line, each number tells its row,
and the lines of a text below another one are numbered on.
-/

namespace ChatFlow.Source

open ChatFlow.Text

/-- Something other than white space stands in the row, and it is no comment. -/
structure IsMeaningful (row : List Char) : Prop where
  text : trim row ≠ []
  slashes : ¬ ['/', '/'] <+: trim row
  sharp : ¬ ['#'] <+: trim row

theorem isMeaningful_iff {row : List Char} :
    IsMeaningful row ↔ ¬ ((trim row).isEmpty || isComment (trim row)) = true := by
  rw [Bool.or_eq_true, List.isEmpty_iff, isComment, Bool.or_eq_true, List.isPrefixOf_iff_prefix,
    List.isPrefixOf_iff_prefix, not_or, not_or]
  exact ⟨fun hrow => ⟨hrow.text, hrow.slashes, hrow.sharp⟩,
    fun hrow => ⟨hrow.1, hrow.2.1, hrow.2.2⟩⟩

theorem Line.ofText?_eq_some_iff {number : Nat} {row : List Char} {line : Line} :
    ofText? number row = some line ↔
      IsMeaningful row ∧ line = ⟨number, .ofLine (String.ofList (trim row))⟩ := by
  rw [isMeaningful_iff, ofText?, Option.ite_none_left_eq_some, Option.some.injEq,
    eq_comm (a := line)]

/-- Lines and meaningful rows are the same. -/
theorem mem_lines_iff {source : String} {line : Line} :
    line ∈ lines source ↔
      ∃ index row, (Text.lines source.toList)[index]? = some row ∧ IsMeaningful row ∧
        line = ⟨index + 1, .ofLine (String.ofList (trim row))⟩ := by
  unfold lines
  rw [List.mem_filterMap]
  constructor
  · rintro ⟨⟨row, number⟩, hentry, hline⟩
    obtain ⟨hfirst, hrow⟩ := List.mk_mem_zipIdx_iff_le_and_getElem?_sub.mp hentry
    obtain ⟨hmeaningful, rfl⟩ := Line.ofText?_eq_some_iff.mp hline
    exact ⟨number - 1, row, hrow, hmeaningful, by rw [Nat.sub_add_cancel hfirst]⟩
  · rintro ⟨index, row, hrow, hmeaningful, rfl⟩
    refine ⟨(row, index + 1), ?_, Line.ofText?_eq_some_iff.mpr ⟨hmeaningful, rfl⟩⟩
    exact List.mk_mem_zipIdx_iff_le_and_getElem?_sub.mpr ⟨Nat.le_add_left 1 index, hrow⟩

/-- The lines of a text with another one below it are those of the two, the lower
ones numbered on by the rows of the upper text.  In every source the numbers
increase, and a number is found if and only if its row is meaningful; the line
then says what the row says without the white space around it. -/
theorem lines_account_for_rows :
    (∀ above below : String,
      lines (above ++ "\n" ++ below) =
        lines above ++ (lines below).map (·.shift (above.toList.count '\n' + 1))) ∧
      ∀ source : String,
        (lines source).Pairwise (fun a b => a.number < b.number) ∧
          ∀ line, line ∈ lines source ↔
            ∃ index row, (Text.lines source.toList)[index]? = some row ∧ IsMeaningful row ∧
              line = ⟨index + 1, .ofLine (String.ofList (trim row))⟩ :=
  ⟨lines_append_newline, fun source => ⟨lines_increasing source, fun _ => mem_lines_iff⟩⟩

end ChatFlow.Source
