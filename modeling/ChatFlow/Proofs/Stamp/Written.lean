import ChatFlow.Proofs.Text.Digits
import ChatFlow.Proofs.Text.Layout
import ChatFlow.Stamp.Timestamp
import ChatFlow.Stamp.Uuid

/-!
# Stamps are read back

The text of an identifier is read as this identifier, and the text of a
timestamp as this timestamp: its parts have a fixed width or end where no digit
follows, and its offset takes nothing off.
-/

namespace ChatFlow

open ChatFlow.Text

/-! ## Identifiers -/

namespace Uuid

theorem toLower_of_isLowerHex {c : Char} (hc : isLowerHex c = true) : c.toLower = c := by
  have hnot : ¬ (c.val ≥ 'A'.val ∧ c.val ≤ 'Z'.val) := by
    rintro ⟨hfirst, hlast⟩
    change ((decide ('0'.val ≤ c.val) && decide (c.val ≤ '9'.val)) ||
      (decide ('a'.val ≤ c.val) && decide (c.val ≤ 'f'.val))) = true at hc
    simp only [Bool.or_eq_true, Bool.and_eq_true, decide_eq_true_eq, ge_iff_le,
      UInt32.le_iff_toNat_le] at hc hfirst hlast
    change 65 ≤ c.toNat at hfirst
    change c.toNat ≤ 90 at hlast
    change 48 ≤ c.toNat ∧ c.toNat ≤ 57 ∨ 97 ≤ c.toNat ∧ c.toNat ≤ 102 at hc
    omega
  exact dif_neg hnot

theorem length_joinGroups (lengths : List Nat) (digits : List Char)
    (hsum : lengths.sum = digits.length) :
    (joinGroups lengths digits).length = digits.length + (lengths.length - 1) := by
  fun_induction joinGroups lengths digits with
  | case1 digits => simpa using hsum
  | case2 length digits => simp
  | case3 length rest digits hrest ih =>
      obtain ⟨next, others, rfl⟩ := List.exists_cons_of_ne_nil hrest
      have hdrop : (next :: others).sum = (digits.drop length).length := by
        rw [List.sum_cons] at hsum
        rw [List.length_drop]
        omega
      have hjoin := ih hdrop
      rw [List.sum_cons] at hsum
      simp only [List.length_append, List.length_take, List.length_cons, List.length_drop] at hjoin ⊢
      omega

/-- Groups are taken out of their hyphens again. -/
theorem splitGroups?_joinGroups {lengths : List Nat} (hsome : lengths ≠ [])
    (digits : List Char) (hsum : lengths.sum = digits.length) :
    splitGroups? lengths (joinGroups lengths digits) = some digits := by
  fun_induction joinGroups lengths digits with
  | case1 digits => exact absurd rfl hsome
  | case2 length digits => simp_all [splitGroups?]
  | case3 length rest digits hrest ih =>
      rw [List.sum_cons] at hsum
      have hlength : (digits.take length).length = length := by
        rw [List.length_take]
        omega
      have hdrop : rest.sum = (digits.drop length).length := by
        rw [List.length_drop]
        omega
      rw [splitGroups?, List.take_left' hlength, List.drop_left' hlength, if_pos hlength]
      · simp only [ih hrest hdrop, Option.map_some, List.take_append_drop]
      · exact hrest

theorem ofText?_text (uuid : Uuid) : ofText? uuid.text = some uuid := by
  have hsum : groupLengths.sum = uuid.digits.length := uuid.length_digits.symm
  have hlength : (joinGroups groupLengths uuid.digits).length = 36 := by
    rw [length_joinGroups _ _ hsum, uuid.length_digits]
    rfl
  have hbare : bareDigits? (joinGroups groupLengths uuid.digits) = some uuid.digits := by
    rw [bareDigits?, hlength, if_neg (by decide), if_pos rfl,
      splitGroups?_joinGroups (by decide) _ hsum]
  have hlower : uuid.digits.map Char.toLower = uuid.digits := by
    refine (List.map_congr_left fun c hmem => ?_).trans (List.map_id uuid.digits)
    exact toLower_of_isLowerHex (List.all_eq_true.mp uuid.all_digits c hmem)
  rw [ofText?, text, String.toList_ofList, hbare, Option.bind_some]
  simp only [hlower]
  rw [dif_pos ⟨uuid.length_digits, uuid.all_digits⟩]

end Uuid

/-! ## Points in time -/

theorem CivilTime.daysInMonth_le (year : Int) (month : Nat) : daysInMonth year month ≤ 31 := by
  unfold daysInMonth
  split
  · split <;> decide
  · split <;> decide

/-- Month, day and second have two digits, and so have hour and minute. -/
theorem CivilTime.bounds_of_isValid {time : CivilTime} (hvalid : time.isValid = true) :
    time.month < 100 ∧ time.day < 100 ∧ time.hour < 24 ∧ time.minute < 60 ∧
      time.second < 100 ∧ time.nanosecond < 1000000000 := by
  have hdays := daysInMonth_le time.year time.month
  simp only [isValid, Bool.and_eq_true, decide_eq_true_eq] at hvalid
  omega

theorem CivilTime.back_zero {time : CivilTime} (hhour : time.hour < 24)
    (hminute : time.minute < 60) : time.back 0 = time := by
  have hofDay : ((time.hour * 60 + time.minute - 0 : Int) % dayLength).toNat =
      time.hour * 60 + time.minute := by
    unfold dayLength
    omega
  have hback : (time.hour * 60 + time.minute) / 60 = time.hour := by omega
  have hrest : (time.hour * 60 + time.minute) % 60 = time.minute := by omega
  unfold back
  simp only [hofDay, hback, hrest]
  rw [if_neg (by omega), if_neg (by unfold dayLength; omega)]

namespace Timestamp

theorem trimStart_padded (width n : Nat) (rest : List Char) :
    trimStart (padLeft width (decimal n) ++ rest) = padLeft width (decimal n) ++ rest := by
  obtain ⟨c, digits, hcons, hc⟩ := exists_padded_eq_cons width n
  rw [hcons, List.cons_append, trimStart_cons (isBlank_eq_false_of_isDigit hc)]

theorem padded_append_ne_cons (width n : Nat) (rest : List Char) {sign : Char}
    (hsign : sign.isDigit = false) (after : List Char) :
    padLeft width (decimal n) ++ rest ≠ sign :: after := by
  obtain ⟨c, digits, hcons, hc⟩ := exists_padded_eq_cons width n
  intro heq
  rw [hcons, List.cons_append] at heq
  rw [List.head_eq_of_cons_eq heq, hsign] at hc
  contradiction

/-- A number is read back from digits of the full width. -/
theorem numberUpTo_padded {width n : Nat} (hwidth : 0 < width) (hn : n < 10 ^ width)
    (rest : List Char) :
    numberUpTo width (padLeft width (decimal n) ++ rest) = some (n, rest) := by
  have hlength := length_padded hwidth hn
  have hdigits : (padLeft width (decimal n)).takeWhile Char.isDigit = padLeft width (decimal n) :=
    List.takeWhile_eq_self_iff.mpr fun c hmem => isDigit_of_mem_padded hmem
  have hsome : (padLeft width (decimal n)).isEmpty = false := by simp [padded_ne_nil]
  simp only [numberUpTo, trimStart_padded, List.take_left' hlength, hdigits, hsome, hlength,
    List.drop_left' hlength, valueOfDigits_padLeft, valueOfDigits_decimal]
  rfl

theorem yearPart_yearText (year : Int) {rest : List Char}
    (hrest : ∀ c ∈ rest.head?, c.isDigit = false) :
    yearPart (yearText year ++ rest) = some (year, rest) := by
  have hsome : (padLeft 4 (decimal year.natAbs)).isEmpty = false := by simp [padded_ne_nil]
  have hspan := spanDigits_padded 4 year.natAbs hrest
  unfold yearText
  by_cases hnegative : year < 0
  · have hvalue : -(year.natAbs : Int) = year := by omega
    simp only [if_pos hnegative, List.cons_append, yearPart,
      trimStart_cons (show isBlank '-' = false by decide), hspan, hsome,
      valueOfDigits_padLeft, valueOfDigits_decimal, hvalue]
    rfl
  · have hvalue : (year.natAbs : Int) = year := by omega
    by_cases hshort : year < 10000
    · have hnumber : numberUpTo 4 (padLeft 4 (decimal year.natAbs) ++ rest) =
          some (year.natAbs, rest) :=
        numberUpTo_padded (by decide) (by omega) rest
      simp only [if_neg hnegative, if_pos hshort, yearPart, trimStart_padded]
      split
      next after heq => exact absurd heq (padded_append_ne_cons 4 _ rest (by decide) after)
      next after heq => exact absurd heq (padded_append_ne_cons 4 _ rest (by decide) after)
      next => simp only [hnumber, Option.map_some, hvalue]
    · simp only [if_neg hnegative, if_neg hshort, List.cons_append, yearPart,
        trimStart_cons (show isBlank '+' = false by decide), hspan, hsome,
        valueOfDigits_padLeft, valueOfDigits_decimal, hvalue]
      rfl

theorem fractionPart_padded {width n : Nat} (hwidth : 0 < width) (hmost : width ≤ 9)
    (hn : n < 10 ^ width) {rest : List Char} (hrest : ∀ c ∈ rest.head?, c.isDigit = false) :
    fractionPart ('.' :: (padLeft width (decimal n) ++ rest)) =
      some (n * 10 ^ (9 - width), rest) := by
  have hlength := length_padded hwidth hn
  have hsome : (padLeft width (decimal n)).isEmpty = false := by simp [padded_ne_nil]
  have hkept : (padLeft width (decimal n)).take 9 = padLeft width (decimal n) :=
    List.take_of_length_le (by omega)
  simp only [fractionPart, spanDigits_padded width n hrest, hsome, hkept, hlength,
    valueOfDigits_append_zeros, valueOfDigits_padLeft, valueOfDigits_decimal]
  rfl

theorem fractionPart_fractionText {nanosecond : Nat} (hless : nanosecond < 1000000000)
    {rest : List Char} (hpoint : rest.head? ≠ some '.')
    (hrest : ∀ c ∈ rest.head?, c.isDigit = false) :
    fractionPart (fractionText nanosecond ++ rest) = some (nanosecond, rest) := by
  unfold fractionText
  split
  next hzero =>
    rw [hzero, List.nil_append, fractionPart]
    rintro after rfl
    exact hpoint rfl
  next =>
    split
    next hmillis =>
      have hscaled : nanosecond / 1000000 * 10 ^ (9 - 3) = nanosecond := by omega
      rw [List.cons_append, fractionPart_padded (by decide) (by decide) (by omega) hrest, hscaled]
    next =>
      split
      next hmicros =>
        have hscaled : nanosecond / 1000 * 10 ^ (9 - 6) = nanosecond := by omega
        rw [List.cons_append, fractionPart_padded (by decide) (by decide) (by omega) hrest,
          hscaled]
      next =>
        rw [List.cons_append, fractionPart_padded (by decide) (by decide) (by omega) hrest,
          Nat.sub_self, Nat.pow_zero, Nat.mul_one]

theorem separator_cons {c : Char} (hc : isBlank c = false) (rest : List Char) :
    separator c (c :: rest) = some rest := by
  rw [separator, trimStart_cons hc]
  change (if (c == c) = true then some rest else none) = some rest
  rw [if_pos (beq_self_eq_true c)]

theorem numberUpTo_twoDigits {n : Nat} (hn : n < 100) (rest : List Char) :
    numberUpTo 2 (twoDigits n ++ rest) = some (n, rest) :=
  numberUpTo_padded (by decide) hn rest

theorem ofText?_text (timestamp : Timestamp) : ofText? timestamp.text = some timestamp := by
  obtain ⟨time, hvalid⟩ := timestamp
  obtain ⟨hmonth, hday, hhour, hminute, hsecond, hnanosecond⟩ :=
    CivilTime.bounds_of_isValid hvalid
  have hyear (rest : List Char) :
      yearPart (yearText time.year ++ '-' :: rest) = some (time.year, '-' :: rest) :=
    yearPart_yearText time.year (by simp)
  have hyphen (rest : List Char) : separator '-' ('-' :: rest) = some rest :=
    separator_cons (by decide) rest
  have hcolon (rest : List Char) : separator ':' (':' :: rest) = some rest :=
    separator_cons (by decide) rest
  have hmark (rest : List Char) : timeMark ('T' :: rest) = some rest := rfl
  have hfraction : fractionPart (fractionText time.nanosecond ++ ['Z']) =
      some (time.nanosecond, ['Z']) :=
    fractionPart_fractionText hnanosecond (by simp) (by simp)
  have hoffset : offsetPart (trimStart ['Z']) = some (0, []) := by
    rw [trimStart_cons (by decide), offsetPart, if_neg (by decide)]
  have hhours : time.hour < 100 := Nat.lt_trans hhour (by decide)
  have hminutes : time.minute < 100 := Nat.lt_trans hminute (by decide)
  have hwhole : (time.isValid && ([] : List Char).all isBlank) = true := by
    rw [hvalid]
    rfl
  simp only [ofText?, text, String.toList_ofList, List.append_assoc, List.cons_append]
  -- Each part is read from the front, up to where the next one starts.
  refine Option.bind_eq_some_iff.mpr ⟨_, hyear _, ?_⟩
  refine Option.bind_eq_some_iff.mpr ⟨_, hyphen _, ?_⟩
  refine Option.bind_eq_some_iff.mpr ⟨_, numberUpTo_twoDigits hmonth _, ?_⟩
  refine Option.bind_eq_some_iff.mpr ⟨_, hyphen _, ?_⟩
  refine Option.bind_eq_some_iff.mpr ⟨_, numberUpTo_twoDigits hday _, ?_⟩
  refine Option.bind_eq_some_iff.mpr ⟨_, hmark _, ?_⟩
  refine Option.bind_eq_some_iff.mpr ⟨_, numberUpTo_twoDigits hhours _, ?_⟩
  refine Option.bind_eq_some_iff.mpr ⟨_, hcolon _, ?_⟩
  refine Option.bind_eq_some_iff.mpr ⟨_, numberUpTo_twoDigits hminutes _, ?_⟩
  refine Option.bind_eq_some_iff.mpr ⟨_, hcolon _, ?_⟩
  refine Option.bind_eq_some_iff.mpr ⟨_, numberUpTo_twoDigits hsecond _, ?_⟩
  refine Option.bind_eq_some_iff.mpr ⟨_, hfraction, ?_⟩
  refine Option.bind_eq_some_iff.mpr ⟨_, hoffset, ?_⟩
  simp only [CivilTime.back_zero hhour hminute]
  exact (dif_pos hvalid).trans (if_pos hwhole)

end Timestamp

end ChatFlow
