import ChatFlow.Proofs.Source.Definitions
import ChatFlow.Proofs.Text.Layout

/-!
# Texts below each other

A line feed cuts a source into two that are read on their own: the meaningful
lines are those of the upper text and then those of the lower one, which keep
their order and are numbered on.  How a line ends does not matter, since the
lines are trimmed.  Reading stops at the first terminator, so a terminator and
whatever stands below it can be left out.
-/

namespace ChatFlow.Source

open ChatFlow.Text

/-- The line after so many more lines. -/
def Line.shift (line : Line) (offset : Nat) : Line :=
  { line with number := line.number + offset }

/-- The meaningful lines among rows of text, numbered from the first row on. -/
def meaningful (first : Nat) (rows : List (List Char)) : List Line :=
  (rows.zipIdx first).filterMap fun (raw, number) => Line.ofText? number raw

theorem meaningful_nil (first : Nat) : meaningful first [] = [] := rfl

theorem meaningful_cons (first : Nat) (row : List Char) (rows : List (List Char)) :
    meaningful first (row :: rows) =
      (Line.ofText? first row).toList ++ meaningful (first + 1) rows := by
  unfold meaningful
  cases hline : Line.ofText? first row <;> simp [hline]

theorem meaningful_append (first : Nat) (above below : List (List Char)) :
    meaningful first (above ++ below) =
      meaningful first above ++ meaningful (first + above.length) below := by
  unfold meaningful
  rw [List.zipIdx_append, List.filterMap_append]

/-! ## How lines end -/

theorem Line.ofText?_nil (number : Nat) : Line.ofText? number [] = none := rfl

theorem Line.ofText?_dropReturn (number : Nat) (row : List Char) :
    Line.ofText? number (dropReturn row) = Line.ofText? number row := by
  unfold Line.ofText?
  rw [trim_dropReturn]

/-- The stretches between line feeds have the same meaningful lines as the
lines that they make. -/
theorem meaningful_linesOfStretches (first : Nat) (found : List (List Char)) :
    meaningful first (linesOfStretches found) = meaningful first found := by
  fun_induction linesOfStretches found generalizing first with
  | case1 => rfl
  | case2 =>
      rw [meaningful_cons, Line.ofText?_nil, meaningful_nil]
      rfl
  | case3 last hlast => rfl
  | case4 ended next rest ih =>
      rw [meaningful_cons, meaningful_cons, Line.ofText?_dropReturn, ih]

theorem lines_eq_meaningful (source : String) :
    lines source = meaningful 1 (stretches source.toList) :=
  meaningful_linesOfStretches 1 (stretches source.toList)

/-! ## Numbering on -/

theorem Line.ofText?_add (number offset : Nat) (row : List Char) :
    Line.ofText? (number + offset) row = (Line.ofText? number row).map (·.shift offset) := by
  unfold Line.ofText?
  dsimp only
  split <;> rfl

theorem meaningful_add (first offset : Nat) (rows : List (List Char)) :
    meaningful (first + offset) rows = (meaningful first rows).map (·.shift offset) := by
  induction rows generalizing first with
  | nil => rfl
  | cons row rows ih =>
      rw [meaningful_cons, meaningful_cons, Line.ofText?_add, List.map_append,
        Nat.add_right_comm, ih]
      cases Line.ofText? first row <;> rfl

/-- Of two texts with a line feed between them the upper one is read first, and
the lower one is numbered on. -/
theorem lines_append_newline (above below : String) :
    lines (above ++ "\n" ++ below) =
      lines above ++ (lines below).map (·.shift (above.toList.count '\n' + 1)) := by
  have hstretches : stretches (above ++ "\n" ++ below).toList =
      stretches above.toList ++ stretches below.toList := by
    rw [← stretches_append_feed, String.toList_append, String.toList_append,
      List.append_assoc]
    rfl
  rw [lines_eq_meaningful, lines_eq_meaningful, lines_eq_meaningful, hstretches,
    meaningful_append, length_stretches, meaningful_add]

/-! ## Below a terminator -/

/-- A source is read in the same way without the part that starts with a
terminator. -/
theorem readLines_append_of_terminator {below : String}
    (hbelow : (lines below).head?.map (·.construct) = some .terminator) (above : String) :
    readLines (above ++ "\n" ++ below) = readLines above := by
  obtain ⟨ending, hending, hconstruct⟩ := Option.map_eq_some_iff.mp hbelow
  obtain ⟨rest, hlines⟩ : ∃ rest, lines below = ending :: rest := by
    cases hrest : lines below with
    | nil => simp [hrest] at hending
    | cons head rest => exact ⟨rest, by simpa [hrest] using hending⟩
  unfold readLines
  rw [lines_append_newline, hlines, List.map_cons, List.takeWhile_append]
  -- Reading goes past the upper text only if no terminator stands in it.
  split
  next hlength =>
    have hstop : (ending.shift (above.toList.count '\n' + 1)).construct = .terminator :=
      hconstruct
    rw [List.takeWhile_cons_of_neg (by rw [hstop]; decide), List.append_nil]
    exact ((List.takeWhile_prefix _).eq_of_length hlength).symm
  next => rfl

namespace Compilation

/-- Compiling depends on nothing but the lines that are read. -/
theorem ofSource_eq_of_readLines_eq {source other : String}
    (hread : readLines source = readLines other) : ofSource source = ofSource other := by
  have hcompile (text : String) :
      ofSource text = ((readLines text).foldl Progress.step {}).finish := rfl
  rw [hcompile, hcompile, hread]

/-- A terminator and the text below it change nothing: the program, the notes
and the header lines are those of the text above. -/
theorem ofSource_append_terminator (above below : String) :
    ofSource (above ++ "\nfim\n" ++ below) = ofSource above := by
  have hsplit : above ++ "\nfim\n" ++ below = above ++ "\n" ++ ("fim" ++ "\n" ++ below) := by
    rw [show "\nfim\n" = "\n" ++ ("fim" ++ "\n") from rfl]
    simp only [String.append_assoc]
  have hending : lines "fim" = [⟨1, .terminator⟩] := by decide +kernel
  have hhead : (lines ("fim" ++ "\n" ++ below)).head?.map (·.construct) =
      some .terminator := by
    rw [lines_append_newline, hending]
    rfl
  rw [hsplit]
  exact ofSource_eq_of_readLines_eq (readLines_append_of_terminator hhead above)

end Compilation

end ChatFlow.Source
