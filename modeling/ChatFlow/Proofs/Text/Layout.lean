import ChatFlow.Name
import ChatFlow.Text.Blank
import ChatFlow.Text.Lines
import Mathlib.Data.List.TakeWhile

/-!
# Lines and the white space around them

No line of a text holds a line feed, and lines that hold none are the lines of
the text in which each of them is ended by one.  White space put around a text
does not change what trimming leaves of it.
-/

namespace ChatFlow.Text

/-! ## Lines -/

theorem stretches_of_not_mem {text : List Char} (hfeed : '\n' ∉ text) :
    stretches text = [text] := by
  induction text with
  | nil => rfl
  | cons c text ih =>
      rw [List.mem_cons, not_or] at hfeed
      exact stretches_cons_of_ne (Ne.symm hfeed.1) (ih hfeed.2)

theorem not_mem_of_mem_stretches {text stretch : List Char}
    (hmem : stretch ∈ stretches text) : '\n' ∉ stretch := by
  induction text generalizing stretch with
  | nil => simp_all
  | cons c text ih =>
      by_cases hc : c = '\n'
      · subst hc
        rw [stretches_cons_feed] at hmem
        rcases List.mem_cons.mp hmem with rfl | hmem
        · exact List.not_mem_nil
        · exact ih hmem
      · obtain ⟨first, rest, hfirst⟩ :=
          List.exists_cons_of_ne_nil (stretches_ne_nil text)
        rw [stretches_cons_of_ne hc hfirst] at hmem
        rcases List.mem_cons.mp hmem with rfl | hmem
        · have hmem : first ∈ stretches text := by simp [hfirst]
          have hhead := ih hmem
          simp [Ne.symm hc, hhead]
        · exact ih (by simp [hfirst, hmem])

theorem length_stretches (text : List Char) :
    (stretches text).length = text.count '\n' + 1 := by
  induction text with
  | nil => rfl
  | cons c text ih =>
      by_cases hc : c = '\n'
      · rw [hc, stretches_cons_feed, List.length_cons, ih, List.count_cons_self]
      · obtain ⟨first, rest, hfirst⟩ := List.exists_cons_of_ne_nil (stretches_ne_nil text)
        rw [hfirst] at ih
        rw [stretches_cons_of_ne hc hfirst, List.count_cons_of_ne hc]
        exact ih

/-- The stretches with a line feed between each two of them are the text. -/
theorem intercalate_stretches (text : List Char) :
    ['\n'].intercalate (stretches text) = text := by
  induction text with
  | nil => rfl
  | cons c text ih =>
      obtain ⟨first, rest, hfirst⟩ := List.exists_cons_of_ne_nil (stretches_ne_nil text)
      by_cases hc : c = '\n'
      · subst hc
        rw [stretches_cons_feed, List.intercalate_cons_of_ne_nil (stretches_ne_nil text), ih]
        rfl
      · rw [hfirst] at ih
        rw [stretches_cons_of_ne hc hfirst, List.intercalate_cons_cons_left, ih]

/-- Rows that hold no line feed are the stretches of what they make with a line
feed between each two of them. -/
theorem stretches_intercalate {rows : List (List Char)} (hfeed : ∀ row ∈ rows, '\n' ∉ row)
    (hsome : rows ≠ []) : stretches (['\n'].intercalate rows) = rows := by
  induction rows with
  | nil => contradiction
  | cons row rows ih =>
      have hrow : '\n' ∉ row := hfeed row List.mem_cons_self
      cases rows with
      | nil => rw [List.intercalate_singleton, stretches_of_not_mem hrow]
      | cons next rest =>
          have hrest := ih (fun other hmem => hfeed other (List.mem_cons_of_mem _ hmem))
            (List.cons_ne_nil next rest)
          rw [List.intercalate_cons_cons, List.append_assoc, List.singleton_append,
            stretches_append_feed, stretches_of_not_mem hrow, hrest, List.singleton_append]

theorem dropReturn_sublist (line : List Char) : (dropReturn line).Sublist line := by
  unfold dropReturn
  split
  · exact List.dropLast_sublist line
  · exact List.Sublist.refl line

theorem exists_stretch_of_mem {found : List (List Char)} {line : List Char}
    (hmem : line ∈ linesOfStretches found) :
    ∃ stretch ∈ found, line.Sublist stretch := by
  fun_induction linesOfStretches found with
  | case1 => simp at hmem
  | case2 => simp at hmem
  | case3 last hlast =>
      have heq : line = last := by simpa using hmem
      exact ⟨last, by simp, heq ▸ List.Sublist.refl line⟩
  | case4 ended next rest ih =>
      rcases List.mem_cons.mp hmem with rfl | hmem
      · exact ⟨ended, by simp, dropReturn_sublist ended⟩
      · obtain ⟨stretch, hstretch, hsub⟩ := ih hmem
        exact ⟨stretch, List.mem_cons_of_mem _ hstretch, hsub⟩

theorem feed_not_mem_of_mem_lines {text line : List Char} (hmem : line ∈ lines text) :
    '\n' ∉ line := by
  obtain ⟨stretch, hstretch, hsub⟩ := exists_stretch_of_mem hmem
  exact fun hfeed => not_mem_of_mem_stretches hstretch (hsub.mem hfeed)

theorem lines_append_feed {line : List Char} (hfeed : '\n' ∉ line) (rest : List Char) :
    lines (line ++ '\n' :: rest) = dropReturn line :: lines rest := by
  obtain ⟨first, others, hfirst⟩ := List.exists_cons_of_ne_nil (stretches_ne_nil rest)
  unfold lines
  rw [stretches_append_feed, stretches_of_not_mem hfeed, hfirst]
  rfl

/-- Lines that are each ended by a line feed are read back, but for a carriage
return at their end. -/
theorem lines_ended {rows : List (List Char)} (hfeed : ∀ row ∈ rows, '\n' ∉ row) :
    lines (rows.flatMap (· ++ ['\n'])) = rows.map dropReturn := by
  induction rows with
  | nil => rfl
  | cons row rows ih =>
      have hrow : '\n' ∉ row := hfeed row List.mem_cons_self
      have hrows := ih fun other hmem => hfeed other (List.mem_cons_of_mem _ hmem)
      rw [List.flatMap_cons, List.append_assoc, List.singleton_append,
        lines_append_feed hrow, hrows, List.map_cons]

/-! ## White space -/

def AllBlank (text : List Char) : Prop :=
  ∀ c ∈ text, isBlank c = true

instance (text : List Char) : Decidable (AllBlank text) :=
  decidable_of_iff (text.all isBlank = true) List.all_eq_true

theorem allBlank_nil : AllBlank [] := by
  simp [AllBlank]

theorem trimStart_append_blank {before : List Char} (hbefore : AllBlank before)
    (text : List Char) : trimStart (before ++ text) = trimStart text :=
  List.dropWhile_append_of_pos hbefore

theorem trimEnd_append_blank {after : List Char} (hafter : AllBlank after)
    (text : List Char) : trimEnd (text ++ after) = trimEnd text := by
  unfold trimEnd
  rw [List.reverse_append, List.dropWhile_append_of_pos]
  intro c hmem
  exact hafter c (List.mem_reverse.mp hmem)

/-- White space around a text is trimmed with it. -/
theorem trim_padded {before after : List Char} (hbefore : AllBlank before)
    (hafter : AllBlank after) (text : List Char) :
    trim (before ++ text ++ after) = trim text := by
  unfold trim
  rw [List.append_assoc, trimStart_append_blank hbefore]
  cases htext : trimStart text with
  | nil =>
      have hall : AllBlank (text ++ after) := by
        intro c hmem
        rcases List.mem_append.mp hmem with hmem | hmem
        · exact trimStart_eq_nil_iff.mp htext c hmem
        · exact hafter c hmem
      rw [trimStart_eq_nil_iff.mpr hall]
  | cons c rest =>
      have happend : trimStart (text ++ after) = trimStart text ++ after := by
        unfold trimStart at htext ⊢
        rw [List.dropWhile_append, htext, if_neg (by simp)]
      rw [happend, htext, trimEnd_append_blank hafter]

theorem exists_trim_padding (text : List Char) :
    ∃ before after, AllBlank before ∧ AllBlank after ∧
      text = before ++ trim text ++ after := by
  have hstart : text = text.takeWhile isBlank ++ trimStart text :=
    List.takeWhile_append_dropWhile.symm
  have hend : trimStart text =
      trim text ++ ((trimStart text).reverse.takeWhile isBlank).reverse := by
    have hreverse := (List.takeWhile_append_dropWhile
      (p := isBlank) (l := (trimStart text).reverse)).symm
    rw [trim, trimEnd, ← List.reverse_append, ← hreverse, List.reverse_reverse]
  refine ⟨text.takeWhile isBlank, ((trimStart text).reverse.takeWhile isBlank).reverse,
    ?_, ?_, ?_⟩
  · exact fun c hmem => List.mem_takeWhile_imp hmem
  · exact fun c hmem => List.mem_takeWhile_imp (List.mem_reverse.mp hmem)
  · rw [List.append_assoc, ← hend]
    exact hstart

theorem trim_eq_nil_iff {text : List Char} : trim text = [] ↔ AllBlank text := by
  constructor
  · intro hnil
    obtain ⟨before, after, hbefore, hafter, htext⟩ := exists_trim_padding text
    rw [hnil, List.append_nil] at htext
    intro c hmem
    rw [htext] at hmem
    rcases List.mem_append.mp hmem with hmem | hmem
    · exact hbefore c hmem
    · exact hafter c hmem
  · intro hblank
    rw [trim, trimStart_eq_nil_iff.mpr hblank, trimEnd_nil]

theorem trim_trim (text : List Char) : trim (trim text) = trim text := by
  obtain ⟨before, after, hbefore, hafter, htext⟩ := exists_trim_padding text
  have hpadded := trim_padded hbefore hafter (trim text)
  rw [← htext] at hpadded
  exact hpadded.symm

theorem trimmed_trimmed (text : String) : trimmed (trimmed text) = trimmed text := by
  unfold trimmed
  rw [String.toList_ofList, trim_trim]

theorem isEmpty_trimmed_iff (text : String) :
    (trimmed text).isEmpty = true ↔ AllBlank text.toList := by
  rw [String.isEmpty_iff, trimmed, ← String.toList_inj, String.toList_ofList, String.toList_empty,
    trim_eq_nil_iff]

/-- The carriage return of a line end is white space. -/
theorem trim_dropReturn (line : List Char) : trim (dropReturn line) = trim line := by
  unfold dropReturn
  split
  next hlast =>
    have hreturn : AllBlank ['\r'] := by
      intro c hmem
      rw [List.mem_singleton.mp hmem]
      decide
    have hsplit : line.dropLast ++ ['\r'] = line := by
      obtain ⟨before, hline⟩ := List.getLast?_eq_some_iff.mp hlast
      rw [hline, List.dropLast_concat]
    have htrim := trim_padded allBlank_nil hreturn line.dropLast
    rw [List.nil_append, hsplit] at htrim
    exact htrim.symm
  next => rfl

theorem trimStart_cons {c : Char} (hc : isBlank c = false) (rest : List Char) :
    trimStart (c :: rest) = c :: rest :=
  List.dropWhile_cons_of_neg (by simp [hc])

theorem trimStart_eq_self {text : List Char} (hhead : ∀ c ∈ text.head?, isBlank c = false) :
    trimStart text = text := by
  cases text with
  | nil => rfl
  | cons c rest => exact trimStart_cons (hhead c rfl) rest

theorem trim_eq_self {text : List Char}
    (hhead : ∀ c ∈ text.head?, isBlank c = false)
    (hlast : ∀ c ∈ text.getLast?, isBlank c = false) : trim text = text := by
  have hreverse : trimStart text.reverse = text.reverse :=
    trimStart_eq_self (by simpa using hlast)
  unfold trim trimEnd
  rw [trimStart_eq_self hhead]
  unfold trimStart at hreverse
  rw [hreverse, List.reverse_reverse]

theorem toNat_of_isNameChar {c : Char} (hc : isNameChar c = true) :
    48 ≤ c.toNat ∧ c.toNat ≤ 122 := by
  change (decide ('A'.val ≤ c.val ∧ c.val ≤ 'Z'.val) ||
    (decide ('a'.val ≤ c.val) && decide (c.val ≤ 'z'.val)) ||
    (decide ('0'.val ≤ c.val) && decide (c.val ≤ '9'.val)) || c == '_') = true at hc
  simp only [Bool.or_eq_true, Bool.and_eq_true, decide_eq_true_eq, beq_iff_eq,
    UInt32.le_iff_toNat_le] at hc
  change ((65 ≤ c.toNat ∧ c.toNat ≤ 90 ∨ 97 ≤ c.toNat ∧ c.toNat ≤ 122) ∨
    48 ≤ c.toNat ∧ c.toNat ≤ 57) ∨ c = '_' at hc
  rcases hc with ((hupper | hlower) | hdigit) | rfl
  · omega
  · omega
  · omega
  · decide

theorem isBlank_eq_false_of_isNameChar {c : Char} (hc : isNameChar c = true) :
    isBlank c = false := by
  have hrange := toNat_of_isNameChar hc
  simp [isBlank, blankRanges]
  omega

theorem isBlank_eq_false_of_isDigit {c : Char} (hc : c.isDigit = true) : isBlank c = false :=
  isBlank_eq_false_of_isNameChar (by simp [isNameChar, Char.isAlphanum, hc])

end ChatFlow.Text
