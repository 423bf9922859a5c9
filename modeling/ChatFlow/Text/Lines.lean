/-!
# Lines of a text

A text is cut at each line feed.  A carriage return directly before a line
feed belongs to the line end; one at the end of the text, with no line feed
after it, stays in its line.  What follows the last line feed is a line only
if it is not empty, so a final line feed does not open another line.
-/

namespace ChatFlow.Text

/-- The line without the carriage return of its line end. -/
def dropReturn (line : List Char) : List Char :=
  if line.getLast? = some '\r' then line.dropLast else line

/-- The lines among the stretches between line feeds: each but the last was
ended by a line feed, and the last one counts only if it holds something. -/
def linesOfStretches : List (List Char) → List (List Char)
  | [] => []
  | [last] => if last = [] then [] else [last]
  | ended :: next :: rest => dropReturn ended :: linesOfStretches (next :: rest)

/-- The stretches of a text between its line feeds; there is always one. -/
def stretches (text : List Char) : List (List Char) :=
  text.foldr
    (fun c found =>
      if c = '\n' then [] :: found
      else match found with
        | first :: rest => (c :: first) :: rest
        | [] => [[c]])
    [[]]

def lines (text : List Char) : List (List Char) :=
  linesOfStretches (stretches text)

@[simp] theorem stretches_nil : stretches [] = [[]] := rfl

@[simp] theorem lines_nil : lines [] = [] := rfl

theorem stretches_ne_nil (text : List Char) : stretches text ≠ [] := by
  cases text with
  | nil => simp
  | cons c rest =>
      unfold stretches
      rw [List.foldr_cons]
      split
      · simp
      · split <;> simp

theorem stretches_cons_feed (text : List Char) :
    stretches ('\n' :: text) = [] :: stretches text := rfl

theorem stretches_cons_of_ne {c : Char} (hc : c ≠ '\n') {text first : List Char}
    {rest : List (List Char)} (htext : stretches text = first :: rest) :
    stretches (c :: text) = (c :: first) :: rest := by
  unfold stretches at htext ⊢
  rw [List.foldr_cons, if_neg hc, htext]

/-- Cutting at a line feed cuts the list of stretches at that place. -/
theorem stretches_append_feed (before after : List Char) :
    stretches (before ++ '\n' :: after) = stretches before ++ stretches after := by
  induction before with
  | nil => rfl
  | cons c before ih =>
      by_cases hc : c = '\n'
      · subst hc
        rw [List.cons_append, stretches_cons_feed, stretches_cons_feed, ih]
        rfl
      · obtain ⟨first, rest, hfirst⟩ :=
          List.exists_cons_of_ne_nil (stretches_ne_nil before)
        have hboth :
            stretches (before ++ '\n' :: after) =
              first :: (rest ++ stretches after) := by
          rw [ih, hfirst]
          rfl
        rw [List.cons_append, stretches_cons_of_ne hc hfirst,
          stretches_cons_of_ne hc hboth]
        rfl

end ChatFlow.Text
