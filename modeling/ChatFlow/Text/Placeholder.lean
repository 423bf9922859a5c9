/-!
# Filling in a placeholder

A template marks the place of a name by a placeholder.  Occurrences are found
from left to right without overlap, and what is filled in is not looked at
again.
-/

namespace ChatFlow.Text

/-- The mark that stands for a name. -/
def placeholder : List Char :=
  "{name}".toList

theorem length_after_prefix {mark text rest : List Char}
    (h : List.isPrefixOf? mark text = some rest) : text.length = mark.length + rest.length := by
  induction mark generalizing text with
  | nil =>
      have htext : text = rest := Option.some.inj h
      simp [htext]
  | cons c mark ih =>
      cases text with
      | nil =>
          have habsurd : (none : Option (List Char)) = some rest := h
          contradiction
      | cons d text =>
          have hstep : (if c == d then List.isPrefixOf? mark text else none) = some rest := h
          split at hstep
          · simp only [List.length_cons, ih hstep]
            omega
          · contradiction

/-- The template with the name in place of each placeholder. -/
def fillIn (name : List Char) (template : List Char) : List Char :=
  match _after : List.isPrefixOf? placeholder template with
  | some rest => name ++ fillIn name rest
  | none =>
      match template with
      | [] => []
      | c :: rest => c :: fillIn name rest
termination_by template.length
decreasing_by
  · have hlength := length_after_prefix _after
    have hmark : placeholder.length = 6 := by decide
    omega
  · simp

/-- Whether a placeholder occurs in the text. -/
def hasPlaceholder : List Char → Bool
  | [] => false
  | c :: rest => placeholder.isPrefixOf (c :: rest) || hasPlaceholder rest

end ChatFlow.Text
