import ChatFlow.Json.Scan
import ChatFlow.Json.Value
import ChatFlow.Proofs.Text.Digits

/-!
# Quoted text and numbers are scanned back

Each character has its own way through the quotes, and scanning leads every
one of them back to it.  A number is scanned up to the first character that
could not belong to it.
-/

namespace ChatFlow.Json

open ChatFlow.Text

/-! ## Text in quotes -/

theorem hexValue?_digitChar {n : Nat} (hn : n < 16) :
    hexValue? (Nat.digitChar n) = some n := by
  have hall : ∀ k < 16, hexValue? (Nat.digitChar k) = some k := by decide
  exact hall n hn

/-- The four digits that a control character is escaped by. -/
theorem fourHex?_control {n : Nat} (hn : n < 0x20) (rest : List Char) :
    fourHex? ('0' :: '0' :: Nat.digitChar (n / 16) :: Nat.digitChar (n % 16) :: rest) =
      some n := by
  have hzero : hexValue? '0' = some 0 := by decide
  have hhigh := hexValue?_digitChar (n := n / 16) (by omega)
  have hlow := hexValue?_digitChar (n := n % 16) (by omega)
  have hsum : ((0 * 16 + 0) * 16 + n / 16) * 16 + n % 16 = n := by omega
  simp only [fourHex?, hzero, hhigh, hlow, Option.bind_eq_bind, Option.bind_some, hsum]

theorem scanUnits_short {c plain : Char} (hshort : shortEscape? c = some plain)
    (found : List Nat) (rest : List Char) :
    scanUnits found ('\\' :: c :: rest) = scanUnits (plain.toNat :: found) rest := by
  have hc : c ≠ 'u' := by
    rintro rfl
    simp [shortEscape?] at hshort
  rw [scanUnits]
  · rw [hshort]
  · exact fun hu => absurd hu hc

theorem scanUnits_plain {c : Char} (hquote : c ≠ '"') (hslash : c ≠ '\\')
    (hcontrol : ¬ c.toNat < 0x20) (found : List Nat) (rest : List Char) :
    scanUnits found (c :: rest) = scanUnits (c.toNat :: found) rest := by
  rw [scanUnits]
  · rw [if_neg hcontrol]
  all_goals simp [hquote, hslash]

/-- The escape of a character is scanned as its code point. -/
theorem scanUnits_escape (found : List Nat) (c : Char) (rest : List Char) :
    scanUnits found (escape c ++ rest) = scanUnits (c.toNat :: found) rest := by
  have hshort (letter : Char) (hletter : shortEscape? letter = some c) :
      scanUnits found (['\\', letter] ++ rest) = scanUnits (c.toNat :: found) rest :=
    scanUnits_short hletter found rest
  -- One case for each branch of the escape.
  unfold escape
  split
  next hc => exact hshort '"' (by rw [hc]; rfl)
  next hquote =>
    split
    next hc => exact hshort '\\' (by rw [hc]; rfl)
    next hslash =>
      split
      next hc => exact hshort 'b' (by rw [hc]; rfl)
      next =>
        split
        next hc => exact hshort 'f' (by rw [hc]; rfl)
        next =>
          split
          next hc => exact hshort 'n' (by rw [hc]; rfl)
          next =>
            split
            next hc => exact hshort 'r' (by rw [hc]; rfl)
            next =>
              split
              next hc => exact hshort 't' (by rw [hc]; rfl)
              next =>
                split
                next hcontrol =>
                  simp only [List.cons_append, List.nil_append, scanUnits,
                    fourHex?_control hcontrol]
                next hcontrol => exact scanUnits_plain hquote hslash hcontrol found rest

theorem scanUnits_quoted (found : List Nat) (text rest : List Char) :
    scanUnits found (text.flatMap escape ++ '"' :: rest) =
      (found.reverse ++ text.map Char.toNat, .ok rest) := by
  induction text generalizing found with
  | nil => simp [scanUnits]
  | cons c text ih =>
      rw [List.flatMap_cons, List.append_assoc, scanUnits_escape, ih]
      simp

/-- No character is half of a pair. -/
theorem not_surrogate_toNat (c : Char) :
    isHighSurrogate c.toNat = false ∧ isLowSurrogate c.toNat = false := by
  have hvalid : c.toNat < 0xD800 ∨ 0xDFFF < c.toNat ∧ c.toNat < 0x110000 := c.valid
  simp only [isHighSurrogate, isLowSurrogate, Bool.and_eq_false_iff, decide_eq_false_iff_not]
  omega

theorem joinUnits_toNat (text : List Char) : joinUnits (text.map Char.toNat) = some text := by
  induction text with
  | nil => rfl
  | cons c text ih =>
      obtain ⟨hhigh, hlow⟩ := not_surrogate_toNat c
      cases text with
      | nil => simp [joinUnits, hhigh, hlow]
      | cons d text =>
          rw [List.map_cons] at ih ⊢
          simp [joinUnits, hhigh, hlow, ih]

/-- A text between quotes is scanned back. -/
theorem scanText_quoted (text : String) (rest : List Char) :
    scanText (text.toList.flatMap escape ++ '"' :: rest) = (.text text, some rest) := by
  unfold scanText
  rw [scanUnits_quoted, List.reverse_nil, List.nil_append]
  dsimp only
  rw [joinUnits_toNat]
  dsimp only
  rw [String.ofList_toList]

/-! ## Numbers -/

/-- What follows cannot belong to a whole number. -/
def EndsNumber (rest : List Char) : Prop :=
  ∀ c ∈ rest.head?, c.isDigit = false ∧ c ≠ '.' ∧ c ≠ 'e' ∧ c ≠ 'E'

theorem scanFraction_of_endsNumber {rest : List Char} (hrest : EndsNumber rest) :
    scanFraction rest = (none, rest) := by
  unfold scanFraction
  split
  next after => exact absurd rfl (hrest '.' rfl).2.1
  next => rfl

theorem scanExponent_of_endsNumber {rest : List Char} (hrest : EndsNumber rest) :
    scanExponent rest = (none, rest) := by
  unfold scanExponent
  split
  next after => exact absurd rfl (hrest 'e' rfl).2.2.1
  next after => exact absurd rfl (hrest 'E' rfl).2.2.2
  next => rfl

/-- A number of sixty-four bits is scanned back. -/
theorem scanNumber_decimal {n : Nat} (hn : n < UInt64.size) {rest : List Char}
    (hrest : EndsNumber rest) :
    scanNumber (decimal n ++ rest) = (.number (.natural (UInt64.ofNat n)), some rest) := by
  have hspan : spanDigits (decimal n ++ rest) = (decimal n, rest) :=
    spanDigits_append (fun _ => isDigit_of_mem_decimal) fun c hc => (hrest c hc).1
  have hsome : (decimal n).isEmpty = false := by simp [decimal_ne_nil]
  have hzero : ¬ ((decimal n).head? = some '0' && 1 < (decimal n).length) = true := by
    simp only [Bool.and_eq_true, decide_eq_true_eq, not_and]
    exact fun hhead hlength => head?_decimal_ne_zero hlength hhead
  have hnumber : Numeral.number? ⟨false, decimal n, none, none⟩ =
      some (.natural (UInt64.ofNat n)) := by
    simp [Numeral.number?, hn]
  have hunsigned (unsigned : List Char) : decimal n ++ rest ≠ '-' :: unsigned := by
    intro hminus
    obtain ⟨c, digits, hcons, hdigit⟩ := exists_decimal_eq_cons n
    rw [hcons, List.cons_append, List.cons_eq_cons] at hminus
    rw [hminus.1] at hdigit
    exact absurd hdigit (by decide)
  unfold scanNumber
  split
  next negative unsigned hsign =>
    split at hsign
    next after hminus => exact absurd hminus (hunsigned after)
    next =>
      cases hsign
      simp only [hspan, hsome, hzero, scanFraction_of_endsNumber hrest,
        scanExponent_of_endsNumber hrest, hnumber]
      rfl

end ChatFlow.Json
