import ChatFlow.Text.Digits
import Mathlib.Algebra.Ring.Nat
import Mathlib.Data.List.Induction

/-!
# Digits and their values

The decimal digits of a number have it as their value, with or without zeros
before them, and only the digits of zero start with one.  Reading takes them, with
a plus sign or none, if the number fits sixty-four bits.  A signed number is written
as it was read unless a sign or a zero in front of it could have been left out.  Where
no digit follows them digits are found again at the front of a text.
-/

namespace ChatFlow.Text

/-! ## Values -/

theorem valueOfDigits_eq_ofDigitChars (digits : List Char) :
    valueOfDigits digits = Nat.ofDigitChars 10 digits 0 := by
  have hstep : (fun value c => value * 10 + digitValue c) =
      fun value c => 10 * value + (c.toNat - '0'.toNat) := by
    funext value c
    rw [Nat.mul_comm, digitValue]
  rw [valueOfDigits, hstep]
  rfl

@[simp] theorem valueOfDigits_decimal (n : Nat) : valueOfDigits (decimal n) = n := by
  rw [valueOfDigits_eq_ofDigitChars]
  exact Nat.ofDigitChars_ten_toDigits

@[simp] theorem valueOfDigits_padLeft (width : Nat) (digits : List Char) :
    valueOfDigits (padLeft width digits) = valueOfDigits digits := by
  simp only [valueOfDigits_eq_ofDigitChars, padLeft, Nat.ofDigitChars_append,
    Nat.ofDigitChars_replicate_zero, Nat.mul_zero]

/-- Zeros after the digits multiply their value. -/
theorem valueOfDigits_append_zeros (digits : List Char) (count : Nat) :
    valueOfDigits (digits ++ List.replicate count '0') =
      valueOfDigits digits * 10 ^ count := by
  rw [valueOfDigits_eq_ofDigitChars, Nat.ofDigitChars_append,
    Nat.ofDigitChars_replicate_zero, ← valueOfDigits_eq_ofDigitChars, Nat.mul_comm]

/-! ## Digits of a number -/

theorem isDigit_of_mem_decimal {n : Nat} {c : Char} (hmem : c ∈ decimal n) :
    c.isDigit = true :=
  Nat.isDigit_of_mem_toDigits (by decide) (by decide) hmem

theorem decimal_ne_nil (n : Nat) : decimal n ≠ [] :=
  Nat.toDigits_ne_nil

theorem length_decimal_le {n width : Nat} (hwidth : 0 < width) (hn : n < 10 ^ width) :
    (decimal n).length ≤ width :=
  (Nat.length_toDigits_le_iff (by decide) hwidth).mpr hn

theorem exists_decimal_eq_cons (n : Nat) :
    ∃ c digits, decimal n = c :: digits ∧ c.isDigit = true := by
  obtain ⟨c, digits, hcons⟩ := List.exists_cons_of_ne_nil (decimal_ne_nil n)
  have hmem : c ∈ decimal n := hcons ▸ List.mem_cons_self
  exact ⟨c, digits, hcons, isDigit_of_mem_decimal hmem⟩

/-- The first digit of a number of several digits is not zero. -/
theorem head?_decimal_ne_zero {n : Nat} (hn : 1 < (decimal n).length) :
    (decimal n).head? ≠ some '0' := by
  have hpositive (m : Nat) (hm : 0 < m) : (decimal m).head? ≠ some '0' := by
    induction m using Nat.strongRecOn with
    | ind m ih =>
        unfold decimal at ih ⊢
        by_cases hsmall : m < 10
        · rw [Nat.toDigits_of_lt_base hsmall, List.head?_cons]
          intro hzero
          exact Nat.ne_of_gt hm (Nat.digitChar_eq_zero.mp (Option.some.inj hzero))
        · rw [Nat.toDigits_of_base_le (by decide) (Nat.le_of_not_lt hsmall), List.head?_append,
            List.head?_eq_some_head Nat.toDigits_ne_nil, Option.some_or,
            ← List.head?_eq_some_head]
          exact ih (m / 10) (by omega) (by omega)
  refine hpositive n (Nat.pos_of_ne_zero ?_)
  rintro rfl
  exact absurd hn (by decide)

/-! ## Texts that write a number -/

/-- The text writes the number: some digits, after a plus sign or none, whose
value is the number. -/
def Writes (text : List Char) (number : Nat) : Prop :=
  ∃ digits, (text = digits ∨ text = '+' :: digits) ∧ digits ≠ [] ∧
    (∀ c ∈ digits, c.isDigit = true) ∧ valueOfDigits digits = number

theorem isDigits_iff (text : List Char) :
    isDigits text = true ↔ text ≠ [] ∧ ∀ c ∈ text, c.isDigit = true := by
  simp [isDigits]

theorem withoutPlus_of_isDigits {text : List Char} (hdigits : isDigits text = true) :
    withoutPlus text = text := by
  unfold withoutPlus
  split
  next rest =>
    have hplus := ((isDigits_iff _).mp hdigits).2 '+' List.mem_cons_self
    contradiction
  next => rfl

theorem writes_iff {text : List Char} {number : Nat} :
    Writes text number ↔
      isDigits (withoutPlus text) = true ∧ valueOfDigits (withoutPlus text) = number := by
  constructor
  · rintro ⟨digits, htext, hsome, hdigits, hvalue⟩
    have hisDigits := (isDigits_iff digits).mpr ⟨hsome, hdigits⟩
    have hwithout : withoutPlus text = digits := by
      rcases htext with rfl | rfl
      · exact withoutPlus_of_isDigits hisDigits
      · rfl
    rw [hwithout]
    exact ⟨hisDigits, hvalue⟩
  · rintro ⟨hisDigits, hvalue⟩
    obtain ⟨hsome, hdigits⟩ := (isDigits_iff _).mp hisDigits
    refine ⟨withoutPlus text, ?_, hsome, hdigits, hvalue⟩
    unfold withoutPlus
    split
    · exact Or.inr rfl
    · exact Or.inl rfl

/-- Reading takes the numbers of sixty-four bits in all ways to write them. -/
theorem unsigned?_eq_some_iff {text : List Char} {number : UInt64} :
    unsigned? text = some number ↔ Writes text number.toNat := by
  rw [writes_iff]
  unfold unsigned?
  dsimp only
  rw [Option.ite_none_right_eq_some, Bool.and_eq_true, decide_eq_true_iff, and_assoc]
  refine and_congr_right fun _ => ?_
  rw [Option.some_inj]
  constructor
  · rintro ⟨hlt, rfl⟩
    exact (UInt64.toNat_ofNat_of_lt' hlt).symm
  · intro hvalue
    rw [hvalue]
    exact ⟨number.toNat_lt_size, UInt64.ofNat_toNat⟩

theorem writes_decimal (n : Nat) : Writes (decimal n) n :=
  ⟨decimal n, Or.inl rfl, decimal_ne_nil n, fun _ => isDigit_of_mem_decimal,
    valueOfDigits_decimal n⟩

/-! ## Digits of a value -/

theorem digitValue_lt {c : Char} (hc : c.isDigit = true) : digitValue c < 10 := by
  obtain ⟨-, hle⟩ := Char.isDigit_iff_toNat.mp hc
  have hnine : '9'.toNat = '0'.toNat + 9 := rfl
  unfold digitValue
  omega

theorem decimal_digitValue {c : Char} (hc : c.isDigit = true) : decimal (digitValue c) = [c] := by
  have hzero : '0'.toNat = 48 := rfl
  obtain ⟨hge, -⟩ := Char.isDigit_iff_toNat.mp hc
  have hchar : (digitValue c).digitChar = c := by
    rw [← Char.toNat_inj, Nat.toNat_digitChar_of_lt_ten (digitValue_lt hc), digitValue]
    omega
  rw [decimal, Nat.toDigits_of_lt_base (digitValue_lt hc), hchar]

/-- Digits are those of their value unless a zero stands in front of them. -/
theorem decimal_valueOfDigits {digits : List Char} (hsome : digits ≠ [])
    (hdigits : ∀ c ∈ digits, c.isDigit = true)
    (hzero : 1 < digits.length → digits.head? ≠ some '0') :
    decimal (valueOfDigits digits) = digits := by
  induction digits using List.reverseRecOn with
  | nil => contradiction
  | append_singleton before c ih =>
      obtain ⟨hbefore, hc⟩ : (∀ d ∈ before, d.isDigit = true) ∧ c.isDigit = true := by
        simpa [or_imp, forall_and] using hdigits
      have hvalue : valueOfDigits (before ++ [c]) = 10 * valueOfDigits before + digitValue c := by
        rw [valueOfDigits, List.foldl_append, Nat.mul_comm]
        rfl
      rw [hvalue]
      cases before with
      | nil => simpa [valueOfDigits] using decimal_digitValue hc
      | cons d before =>
          have hd : d ≠ '0' := by simpa using hzero (by simp)
          have hdecimal := ih (by simp) hbefore fun _ => by simpa using hd
          have hpos : 0 < valueOfDigits (d :: before) := by
            refine Nat.pos_of_ne_zero fun hnone => ?_
            rw [hnone] at hdecimal
            exact hd (List.cons.inj hdecimal).1.symm
          rw [decimal, ← Nat.toDigits_append_toDigits (by decide) hpos (digitValue_lt hc)]
          exact congrArg₂ (· ++ ·) hdecimal (decimal_digitValue hc)

/-- Digits are those of their value if no zero stands in front of others. -/
theorem decimal_valueOfDigits_iff {digits : List Char} (hdigits : isDigits digits = true) :
    decimal (valueOfDigits digits) = digits ↔ digits = ['0'] ∨ digits.head? ≠ some '0' := by
  obtain ⟨hsome, hall⟩ := (isDigits_iff digits).mp hdigits
  obtain ⟨c, rest, rfl⟩ := List.exists_cons_of_ne_nil hsome
  constructor
  · intro hdecimal
    cases rest with
    | nil => by_cases hc : c = '0' <;> simp [hc]
    | cons d rest => exact Or.inr (hdecimal ▸ head?_decimal_ne_zero (by simp [hdecimal]))
  · rintro (hzero | hhead)
    · rw [hzero]
      rfl
    · exact decimal_valueOfDigits hsome hall fun _ => hhead

/-! ## Signed numbers -/

theorem signedDecimal_ofNat (n : Nat) : signedDecimal n = decimal n := by
  simp [signedDecimal]

theorem signedDecimal_neg {n : Nat} (hn : 0 < n) : signedDecimal (-n) = '-' :: decimal n := by
  rw [signedDecimal, if_pos (by omega), Int.natAbs_neg, Int.natAbs_natCast]

theorem mem_signedDecimal {whole : Int} {c : Char} (hmem : c ∈ signedDecimal whole) :
    c.isDigit = true ∨ c = '-' := by
  unfold signedDecimal at hmem
  split at hmem
  · rcases List.mem_cons.mp hmem with hsign | hdigit
    · exact Or.inr hsign
    · exact Or.inl (isDigit_of_mem_decimal hdigit)
  · exact Or.inl (isDigit_of_mem_decimal hmem)

/-- A whole number is read from digits after a sign or none. -/
theorem exists_digits_of_signed? {text : List Char} {whole : Int}
    (hread : signed? text = some whole) :
    ∃ digits, isDigits digits = true ∧
      (text = '-' :: digits ∧ whole = -valueOfDigits digits ∨
        (text = digits ∨ text = '+' :: digits) ∧ whole = valueOfDigits digits) := by
  unfold signed? at hread
  split at hread
  next digits =>
    rw [Option.ite_none_right_eq_some, Bool.and_eq_true, Option.some_inj] at hread
    exact ⟨digits, hread.1.1, Or.inl ⟨rfl, hread.2.symm⟩⟩
  next =>
    dsimp only at hread
    rw [Option.ite_none_right_eq_some, Bool.and_eq_true, Option.some_inj] at hread
    refine ⟨withoutPlus text, hread.1.1, Or.inr ⟨?_, hread.2.symm⟩⟩
    unfold withoutPlus
    split
    · exact Or.inr rfl
    · exact Or.inl rfl

/-- A sign or a zero in front of a whole number that could be left out. -/
inductive HasSpareStart : List Char → Prop
  | plus (digits : List Char) : HasSpareStart ('+' :: digits)
  | zero (c : Char) (digits : List Char) : HasSpareStart ('0' :: c :: digits)
  | minusZero (digits : List Char) : HasSpareStart ('-' :: '0' :: digits)

theorem hasSpareStart_minus_iff (digits : List Char) :
    HasSpareStart ('-' :: digits) ↔ digits.head? = some '0' := by
  constructor
  · rintro ⟨⟩
    rfl
  · intro hhead
    obtain ⟨rest, rfl⟩ := List.head?_eq_some_iff.mp hhead
    exact .minusZero rest

theorem hasSpareStart_digits_iff {digits : List Char} (hdigits : isDigits digits = true) :
    HasSpareStart digits ↔ digits ≠ ['0'] ∧ digits.head? = some '0' := by
  have hall := ((isDigits_iff digits).mp hdigits).2
  constructor
  · rintro (⟨rest⟩ | ⟨c, rest⟩ | ⟨rest⟩)
    · exact absurd (hall '+' List.mem_cons_self) (by decide)
    · simp
    · exact absurd (hall '-' List.mem_cons_self) (by decide)
  · rintro ⟨hmore, hhead⟩
    obtain ⟨rest, rfl⟩ := List.head?_eq_some_iff.mp hhead
    cases rest with
    | nil => exact absurd rfl hmore
    | cons c rest => exact .zero c rest

/-- The text of a whole number is the one that is written for it unless some of
its start could be left out. -/
theorem eq_signedDecimal_iff {text : List Char} {whole : Int}
    (hread : signed? text = some whole) :
    text = signedDecimal whole ↔ ¬ HasSpareStart text := by
  obtain ⟨digits, hdigits, ⟨rfl, rfl⟩ | ⟨rfl | rfl, rfl⟩⟩ := exists_digits_of_signed? hread
  · rw [hasSpareStart_minus_iff]
    have hdecimal := decimal_valueOfDigits_iff hdigits
    rcases Nat.eq_zero_or_pos (valueOfDigits digits) with hzero | hpos
    · -- Zero is written without a sign.
      rw [hzero] at hdecimal ⊢
      have hhead : digits.head? = some '0' := by
        by_contra hhead
        exact hhead (hdecimal.mpr (Or.inr hhead) ▸ rfl)
      refine iff_of_false (fun htext => ?_) (not_not_intro hhead)
      have hwritten : '-' :: digits = ['0'] := htext
      simp at hwritten
    · have hmore : digits ≠ ['0'] := by
        rintro rfl
        exact absurd hpos (by decide)
      rw [signedDecimal_neg hpos, List.cons_inj_right, eq_comm, hdecimal]
      exact or_iff_right hmore
  · rw [signedDecimal_ofNat, eq_comm, decimal_valueOfDigits_iff hdigits,
      hasSpareStart_digits_iff hdigits, not_and_or, not_ne_iff]
  · rw [signedDecimal_ofNat]
    refine iff_of_false (fun htext => ?_) (not_not_intro (.plus digits))
    have hplus : '+' ∈ decimal (valueOfDigits digits) := htext ▸ List.mem_cons_self
    exact absurd (isDigit_of_mem_decimal hplus) (by decide)

/-! ## Digits at the front of a text -/

/-- Digits are found at the front of a text if no other digit follows them. -/
theorem spanDigits_append {digits rest : List Char}
    (hdigits : ∀ c ∈ digits, c.isDigit = true) (hrest : ∀ c ∈ rest.head?, c.isDigit = false) :
    spanDigits (digits ++ rest) = (digits, rest) := by
  have hnone : rest.takeWhile Char.isDigit = [] ∧ rest.dropWhile Char.isDigit = rest := by
    cases rest with
    | nil => exact ⟨rfl, rfl⟩
    | cons c rest =>
        have hc : ¬ c.isDigit = true := by simp [hrest c rfl]
        exact ⟨List.takeWhile_cons_of_neg hc, List.dropWhile_cons_of_neg hc⟩
  unfold spanDigits
  rw [List.takeWhile_append_of_pos hdigits, List.dropWhile_append_of_pos hdigits, hnone.1,
    hnone.2, List.append_nil]

/-! ## Digits of a number up to a width -/

theorem isDigit_of_mem_padded {width n : Nat} {c : Char}
    (hmem : c ∈ padLeft width (decimal n)) : c.isDigit = true := by
  rcases List.mem_append.mp hmem with hzero | hdigit
  · rw [List.eq_of_mem_replicate hzero]
    rfl
  · exact isDigit_of_mem_decimal hdigit

theorem padded_ne_nil (width n : Nat) : padLeft width (decimal n) ≠ [] := by
  simp [padLeft, decimal_ne_nil]

theorem length_padded {width n : Nat} (hwidth : 0 < width) (hn : n < 10 ^ width) :
    (padLeft width (decimal n)).length = width := by
  have hlength := length_decimal_le hwidth hn
  rw [padLeft, List.length_append, List.length_replicate]
  omega

theorem exists_padded_eq_cons (width n : Nat) :
    ∃ c digits, padLeft width (decimal n) = c :: digits ∧ c.isDigit = true := by
  obtain ⟨c, digits, hcons⟩ := List.exists_cons_of_ne_nil (padded_ne_nil width n)
  have hmem : c ∈ padLeft width (decimal n) := hcons ▸ List.mem_cons_self
  exact ⟨c, digits, hcons, isDigit_of_mem_padded hmem⟩

theorem spanDigits_padded (width n : Nat) {rest : List Char}
    (hrest : ∀ c ∈ rest.head?, c.isDigit = false) :
    spanDigits (padLeft width (decimal n) ++ rest) = (padLeft width (decimal n), rest) :=
  spanDigits_append (fun _ => isDigit_of_mem_padded) hrest

end ChatFlow.Text
