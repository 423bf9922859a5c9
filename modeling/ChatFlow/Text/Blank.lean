/-!
# White space

White space is the Unicode property `White_Space`: twenty-five characters, in
the ten ranges below.  Format characters such as the zero-width space and the
byte order mark are outside it.  Trimming removes white space at the ends of
a text and nothing in between.
-/

namespace ChatFlow.Text

/-- First and last code point of each range of the property `White_Space`. -/
def blankRanges : List (Nat × Nat) :=
  [(0x09, 0x0D), (0x20, 0x20), (0x85, 0x85), (0xA0, 0xA0), (0x1680, 0x1680),
    (0x2000, 0x200A), (0x2028, 0x2029), (0x202F, 0x202F), (0x205F, 0x205F),
    (0x3000, 0x3000)]

def isBlank (c : Char) : Bool :=
  blankRanges.any fun range => range.1 ≤ c.toNat && c.toNat ≤ range.2

/-- The text from its first character that is not white space. -/
def trimStart (text : List Char) : List Char :=
  text.dropWhile isBlank

/-- The text up to its last character that is not white space. -/
def trimEnd (text : List Char) : List Char :=
  (text.reverse.dropWhile isBlank).reverse

def trim (text : List Char) : List Char :=
  trimEnd (trimStart text)

/-- The text without the white space around it. -/
def trimmed (text : String) : String :=
  String.ofList (trim text.toList)

@[simp] theorem trimStart_nil : trimStart [] = [] := rfl

@[simp] theorem trimEnd_nil : trimEnd [] = [] := rfl

@[simp] theorem trim_nil : trim [] = [] := rfl

theorem trimStart_eq_nil_iff {text : List Char} :
    trimStart text = [] ↔ ∀ c ∈ text, isBlank c = true := by
  induction text with
  | nil => simp
  | cons c rest ih =>
      by_cases hc : isBlank c = true
      · rw [trimStart, List.dropWhile_cons_of_pos hc]
        simp only [List.mem_cons, forall_eq_or_imp, hc, true_and]
        exact ih
      · simp [trimStart, hc]

theorem mem_of_mem_trim {text : List Char} {c : Char} (h : c ∈ trim text) :
    c ∈ text := by
  unfold trim trimEnd trimStart at h
  have hmem := (List.dropWhile_sublist isBlank).mem (List.mem_reverse.mp h)
  exact (List.dropWhile_sublist isBlank).mem (List.mem_reverse.mp hmem)

end ChatFlow.Text
