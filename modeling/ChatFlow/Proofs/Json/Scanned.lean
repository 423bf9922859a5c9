import ChatFlow.Proofs.Json.Quoted

/-!
# Values are scanned back from their text

Compact text and laid out text differ only in the white space between the
parts of a value.  Scanning passes over this space, wherever it stands, and
finds in both texts the same reading: that of the value, without a fault.
-/

namespace ChatFlow.Json

open ChatFlow.Text

/-! ## White space between parts -/

def AllSpace (text : List Char) : Prop :=
  ∀ c ∈ text, isSpace c = true

/-- White space to put between the parts of a value. -/
structure Spacing where
  /-- Before an item at a level, and before the bracket that closes the items
  of the next level. -/
  line : Nat → List Char
  afterColon : List Char
  allSpace_line : ∀ level, AllSpace (line level)
  allSpace_afterColon : AllSpace afterColon

namespace Spacing

/-- No white space at all. -/
def compact : Spacing where
  line _ := []
  afterColon := []
  allSpace_line _ _ hmem := absurd hmem List.not_mem_nil
  allSpace_afterColon _ hmem := absurd hmem List.not_mem_nil

/-- A line for each item, and a space after a colon. -/
def laidOut : Spacing where
  line := newline
  afterColon := [' ']
  allSpace_line level c hmem := by
    rcases List.mem_cons.mp hmem with rfl | hindent
    · rfl
    · rw [List.eq_of_mem_replicate hindent]
      rfl
  allSpace_afterColon c hmem := by
    rw [List.mem_singleton.mp hmem]
    rfl

end Spacing

mutual

/-- The text of a value with the given spacing, from a level on. -/
def Value.spaced (spacing : Spacing) (level : Nat) : Value → List Char
  | .array (item :: rest) =>
      '[' :: spacedItems spacing (level + 1) (item :: rest) ++ (spacing.line level ++ [']'])
  | .object (member :: rest) =>
      '{' :: spacedMembers spacing (level + 1) (member :: rest) ++
        (spacing.line level ++ ['}'])
  | value => value.compact

def spacedItems (spacing : Spacing) (level : Nat) : List Value → List Char
  | [] => []
  | item :: rest =>
      spacing.line level ++ (item.spaced spacing level ++
        (if rest.isEmpty then [] else ',' :: spacedItems spacing level rest))

def spacedMembers (spacing : Spacing) (level : Nat) : List (String × Value) → List Char
  | [] => []
  | (key, value) :: rest =>
      spacing.line level ++ '"' :: (key.toList.flatMap escape ++ '"' :: ':' ::
        (spacing.afterColon ++ (value.spaced spacing level ++
          (if rest.isEmpty then [] else ',' :: spacedMembers spacing level rest))))

end

theorem spacedItems_singleton (spacing : Spacing) (level : Nat) (item : Value) :
    spacedItems spacing level [item] = spacing.line level ++ item.spaced spacing level := by
  simp [spacedItems]

theorem spacedItems_cons_cons (spacing : Spacing) (level : Nat) (item next : Value)
    (rest : List Value) :
    spacedItems spacing level (item :: next :: rest) =
      spacing.line level ++
        (item.spaced spacing level ++ ',' :: spacedItems spacing level (next :: rest)) := by
  rw [spacedItems]
  rfl

theorem spacedMembers_singleton (spacing : Spacing) (level : Nat) (key : String)
    (value : Value) :
    spacedMembers spacing level [(key, value)] =
      spacing.line level ++ '"' :: (key.toList.flatMap escape ++ '"' :: ':' ::
        (spacing.afterColon ++ value.spaced spacing level)) := by
  simp [spacedMembers]

theorem spacedMembers_cons_cons (spacing : Spacing) (level : Nat) (key : String)
    (value : Value) (next : String × Value) (rest : List (String × Value)) :
    spacedMembers spacing level ((key, value) :: next :: rest) =
      spacing.line level ++ '"' :: (key.toList.flatMap escape ++ '"' :: ':' ::
        (spacing.afterColon ++ (value.spaced spacing level ++
          ',' :: spacedMembers spacing level (next :: rest)))) := by
  rw [spacedMembers]
  rfl

mutual

theorem spaced_compact (level : Nat) : ∀ value : Value,
    value.spaced .compact level = value.compact
  | .null | .bool _ | .natural _ | .text _ | .array [] | .object [] => by simp [Value.spaced]
  | .array (item :: rest) => by
      rw [Value.spaced, Value.compact, spacedItems_compact (level + 1) (item :: rest)]
      rfl
  | .object (member :: rest) => by
      rw [Value.spaced, Value.compact, spacedMembers_compact (level + 1) (member :: rest)]
      rfl

theorem spacedItems_compact (level : Nat) : ∀ items : List Value,
    spacedItems .compact level items = compactItems items
  | [] => by rw [spacedItems, compactItems]
  | item :: rest => by
      rw [spacedItems, compactItems, spaced_compact level item, spacedItems_compact level rest]
      rfl

theorem spacedMembers_compact (level : Nat) : ∀ members : List (String × Value),
    spacedMembers .compact level members = compactMembers members
  | [] => by rw [spacedMembers, compactMembers]
  | (key, value) :: rest => by
      rw [spacedMembers, compactMembers, spaced_compact level value,
        spacedMembers_compact level rest]
      simp [quote, Spacing.compact]

end

mutual

theorem spaced_laidOut (level : Nat) : ∀ value : Value,
    value.spaced .laidOut level = value.layOut level
  | .null | .bool _ | .natural _ | .text _ | .array [] | .object [] => by
      simp [Value.spaced, Value.layOut]
  | .array (item :: rest) => by
      rw [Value.spaced, Value.layOut, spacedItems_laidOut (level + 1) (item :: rest)]
      simp [Spacing.laidOut]
  | .object (member :: rest) => by
      rw [Value.spaced, Value.layOut, spacedMembers_laidOut (level + 1) (member :: rest)]
      simp [Spacing.laidOut]

theorem spacedItems_laidOut (level : Nat) : ∀ items : List Value,
    spacedItems .laidOut level items = layOutItems level items
  | [] => by rw [spacedItems, layOutItems]
  | item :: rest => by
      rw [spacedItems, layOutItems, spaced_laidOut level item, spacedItems_laidOut level rest]
      simp [Spacing.laidOut]

theorem spacedMembers_laidOut (level : Nat) : ∀ members : List (String × Value),
    spacedMembers .laidOut level members = layOutMembers level members
  | [] => by rw [spacedMembers, layOutMembers]
  | (key, value) :: rest => by
      rw [spacedMembers, layOutMembers, spaced_laidOut level value,
        spacedMembers_laidOut level rest]
      simp [quote, Spacing.laidOut]

end

theorem skipSpace_append {gap : List Char} (hgap : AllSpace gap) (text : List Char) :
    skipSpace (gap ++ text) = skipSpace text :=
  List.dropWhile_append_of_pos hgap

theorem skipSpace_cons {c : Char} (hc : isSpace c = false) (text : List Char) :
    skipSpace (c :: text) = c :: text :=
  List.dropWhile_cons_of_neg (by simp [hc])

theorem endsNumber_separator {c : Char} (hc : c ∈ [',', ']', '}']) (rest : List Char) :
    EndsNumber (c :: rest) := by
  intro d hd
  obtain rfl : c = d := Option.some.inj hd
  simp only [List.mem_cons, List.not_mem_nil, or_false] at hc
  rcases hc with rfl | rfl | rfl <;> decide

theorem endsNumber_append {gap rest : List Char} (hgap : AllSpace gap)
    (hrest : EndsNumber rest) : EndsNumber (gap ++ rest) := by
  cases gap with
  | nil => exact hrest
  | cons blank gap =>
      intro d hd
      obtain rfl : blank = d := Option.some.inj hd
      have hblank := hgap blank List.mem_cons_self
      simp only [isSpace, Bool.or_eq_true, decide_eq_true_eq] at hblank
      rcases hblank with ((rfl | rfl) | rfl) | rfl <;> decide

/-! ## Readings of values -/

mutual

/-- What is found in the text of a value. -/
def Value.reading : Value → Reading
  | .null => .null
  | .bool value => .bool value
  | .natural value => .number (.natural (UInt64.ofNat value))
  | .text value => .text value
  | .array items => .array (itemReadings items) none
  | .object members => .object (memberReadings members) none

def itemReadings : List Value → List Reading
  | [] => []
  | item :: rest => item.reading :: itemReadings rest

def memberReadings : List (String × Value) → List (Reading × Reading)
  | [] => []
  | (key, value) :: rest => (.text key, value.reading) :: memberReadings rest

end

mutual

/-- Every number in the value has at most sixty-four bits. -/
def Value.Fits : Value → Prop
  | .natural value => value < UInt64.size
  | .array items => ItemsFit items
  | .object members => MembersFit members
  | _ => True

def ItemsFit : List Value → Prop
  | [] => True
  | item :: rest => item.Fits ∧ ItemsFit rest

def MembersFit : List (String × Value) → Prop
  | [] => True
  | (_, value) :: rest => value.Fits ∧ MembersFit rest

end

/-! ## Scanning -/

theorem scanValue_append {gap : List Char} (hgap : AllSpace gap) (fuel : Nat)
    (text : List Char) : scanValue fuel (gap ++ text) = scanValue fuel text := by
  cases fuel with
  | zero => rw [scanValue, scanValue]
  | succ fuel => rw [scanValue, scanValue, skipSpace_append hgap]

theorem isSpace_eq_false_of_isDigit {c : Char} (hc : c.isDigit = true) : isSpace c = false := by
  by_cases hspace : isSpace c = true
  · simp only [isSpace, Bool.or_eq_true, decide_eq_true_eq] at hspace
    rcases hspace with ((rfl | rfl) | rfl) | rfl <;> exact absurd hc (by decide)
  · simpa using hspace

theorem scanValue_digit {c : Char} (hc : c.isDigit = true) (fuel : Nat) (text : List Char) :
    scanValue (fuel + 1) (c :: text) = scanNumber (c :: text) := by
  have hne {d : Char} (hd : d.isDigit = false) : c ≠ d := by
    rintro rfl
    rw [hc] at hd
    contradiction
  rw [scanValue, skipSpace_cons (isSpace_eq_false_of_isDigit hc)]
  -- A digit is none of the characters that another value starts with.
  split
  next heq => exact absurd heq (List.cons_ne_nil c text)
  next heq => exact absurd (List.head_eq_of_cons_eq heq) (hne (by decide))
  next heq => exact absurd (List.head_eq_of_cons_eq heq) (hne (by decide))
  next heq => exact absurd (List.head_eq_of_cons_eq heq) (hne (by decide))
  next heq => exact absurd (List.head_eq_of_cons_eq heq) (hne (by decide))
  next heq => exact absurd (List.head_eq_of_cons_eq heq) (hne (by decide))
  next heq => exact absurd (List.head_eq_of_cons_eq heq) (hne (by decide))
  next heq =>
    cases heq
    simp [hc]

/-- The text of a value starts with a character that is neither white space nor
a closing bracket. -/
theorem exists_spaced_eq_cons (spacing : Spacing) (level : Nat) (value : Value) :
    ∃ c more, value.spaced spacing level = c :: more ∧ isSpace c = false ∧ c ≠ ']' := by
  cases value with
  | null => exact ⟨'n', "ull".toList, rfl, rfl, by decide⟩
  | bool value =>
      cases value with
      | true => exact ⟨'t', "rue".toList, rfl, rfl, by decide⟩
      | false => exact ⟨'f', "alse".toList, rfl, rfl, by decide⟩
  | natural value =>
      obtain ⟨c, digits, hdigits, hc⟩ := exists_decimal_eq_cons value
      refine ⟨c, digits, ?_, isSpace_eq_false_of_isDigit hc, ?_⟩
      · rw [Value.spaced, Value.compact, hdigits]
        all_goals simp
      · rintro rfl
        exact absurd hc (by decide)
  | text value => exact ⟨'"', _, rfl, rfl, by decide⟩
  | array items => cases items <;> exact ⟨'[', _, rfl, rfl, by decide⟩
  | object members => cases members <;> exact ⟨'{', _, rfl, rfl, by decide⟩

theorem scanItems_append {gap : List Char} (hgap : AllSpace gap) (fuel : Nat)
    (text : List Char) : scanItems fuel (gap ++ text) = scanItems fuel text := by
  cases fuel with
  | zero => rw [scanItems, scanItems]
  | succ fuel => rw [scanItems, scanItems, scanValue_append hgap]

theorem scanMembers_append {gap : List Char} (hgap : AllSpace gap) (fuel : Nat)
    (text : List Char) : scanMembers fuel (gap ++ text) = scanMembers fuel text := by
  cases fuel with
  | zero => rw [scanMembers, scanMembers]
  | succ fuel => rw [scanMembers, scanMembers, skipSpace_append hgap]

theorem scanValue_array {gap : List Char} (hgap : AllSpace gap) {c : Char}
    (hspace : isSpace c = false) (hc : c ≠ ']') (fuel : Nat) (more : List Char) :
    scanValue (fuel + 1) ('[' :: (gap ++ c :: more)) =
      (.array (scanItems fuel (gap ++ c :: more)).1 (scanItems fuel (gap ++ c :: more)).2.1,
        (scanItems fuel (gap ++ c :: more)).2.2) := by
  rw [scanValue, skipSpace_cons (by decide), scanItems_append hgap]
  simp only [skipSpace_append hgap, skipSpace_cons hspace]
  split
  next heq => exact absurd (List.head_eq_of_cons_eq heq) hc
  next => rfl

theorem scanValue_object {gap : List Char} (hgap : AllSpace gap) {c : Char}
    (hspace : isSpace c = false) (hc : c ≠ '}') (fuel : Nat) (more : List Char) :
    scanValue (fuel + 1) ('{' :: (gap ++ c :: more)) =
      (.object (scanMembers fuel (gap ++ c :: more)).1
          (scanMembers fuel (gap ++ c :: more)).2.1,
        (scanMembers fuel (gap ++ c :: more)).2.2) := by
  rw [scanValue, skipSpace_cons (by decide), scanMembers_append hgap]
  simp only [skipSpace_append hgap, skipSpace_cons hspace]
  split
  next heq => exact absurd (List.head_eq_of_cons_eq heq) hc
  next => rfl

theorem scanItems_last {fuel : Nat} {text gap rest : List Char} {item : Reading}
    (hitem : scanValue fuel text = (item, some (gap ++ ']' :: rest))) (hgap : AllSpace gap) :
    scanItems (fuel + 1) text = ([item], none, some rest) := by
  rw [scanItems, hitem]
  simp only [Option.map_some, skipSpace_append hgap,
    skipSpace_cons (show isSpace ']' = false by decide)]

theorem scanItems_more {fuel : Nat} {text rest : List Char} {item : Reading}
    (hitem : scanValue fuel text = (item, some (',' :: rest))) :
    scanItems (fuel + 1) text =
      (item :: (scanItems fuel rest).1, (scanItems fuel rest).2) := by
  rw [scanItems, hitem]
  simp only [Option.map_some, skipSpace_cons (show isSpace ',' = false by decide)]

theorem scanMembers_last {fuel : Nat} {key : String} {text gap rest : List Char}
    {value : Reading} (hvalue : scanValue fuel text = (value, some (gap ++ '}' :: rest)))
    (hgap : AllSpace gap) :
    scanMembers (fuel + 1)
        ('"' :: (key.toList.flatMap escape ++ '"' :: ':' :: text)) =
      ([(.text key, value)], none, some rest) := by
  rw [scanMembers, skipSpace_cons (by decide)]
  simp only [scanText_quoted, Option.map_some, hvalue, skipSpace_append hgap,
    skipSpace_cons (show isSpace ':' = false by decide),
    skipSpace_cons (show isSpace '}' = false by decide)]

theorem scanMembers_more {fuel : Nat} {key : String} {text rest : List Char}
    {value : Reading} (hvalue : scanValue fuel text = (value, some (',' :: rest))) :
    scanMembers (fuel + 1)
        ('"' :: (key.toList.flatMap escape ++ '"' :: ':' :: text)) =
      ((.text key, value) :: (scanMembers fuel rest).1, (scanMembers fuel rest).2) := by
  rw [scanMembers, skipSpace_cons (by decide)]
  simp only [scanText_quoted, Option.map_some, hvalue,
    skipSpace_cons (show isSpace ':' = false by decide),
    skipSpace_cons (show isSpace ',' = false by decide)]

mutual

/-- The text of a value is scanned as the reading of the value, up to the text
after it. -/
theorem scanValue_spaced (spacing : Spacing) (level : Nat) (value : Value)
    (hfits : value.Fits) {rest : List Char} (hrest : EndsNumber rest) {fuel : Nat}
    (hfuel : 2 * (value.spaced spacing level).length ≤ fuel) :
    scanValue fuel (value.spaced spacing level ++ rest) = (value.reading, some rest) := by
  obtain ⟨c, more, hstart, hspace, hbracket⟩ := exists_spaced_eq_cons spacing level value
  obtain ⟨fuel, rfl⟩ : ∃ less, fuel = less + 1 := by
    rw [hstart, List.length_cons] at hfuel
    exact ⟨fuel - 1, by omega⟩
  match value with
  | .null => rfl
  | .bool true => rfl
  | .bool false => rfl
  | .natural n =>
      change decimal n = c :: more at hstart
      have hc : c.isDigit = true :=
        isDigit_of_mem_decimal (hstart ▸ List.mem_cons_self : c ∈ decimal n)
      have hscan := scanNumber_decimal (n := n) (by simpa [Value.Fits] using hfits) hrest
      change scanValue (fuel + 1) (decimal n ++ rest) = _
      rw [hstart, List.cons_append] at hscan ⊢
      rw [scanValue_digit hc, hscan]
      rfl
  | .text text =>
      change scanValue (fuel + 1) ('"' :: (text.toList.flatMap escape ++ ['"'] ++ rest)) = _
      rw [scanValue, skipSpace_cons (by decide), List.append_assoc, List.singleton_append]
      exact scanText_quoted text rest
  | .array [] => rfl
  | .array (item :: items) =>
      rw [Value.Fits] at hfits
      rw [Value.spaced] at hfuel ⊢
      obtain ⟨d, later, hitem, hspace, hbracket⟩ :=
        exists_spaced_eq_cons spacing (level + 1) item
      have hless : 2 * (spacedItems spacing (level + 1) (item :: items)).length + 1 ≤ fuel := by
        simp only [List.length_append, List.length_cons] at hfuel
        omega
      have hitems := scanItems_spaced spacing (level + 1) (item :: items)
        (List.cons_ne_nil item items) hfits (spacing.allSpace_line level) rest hless
      rw [spacedItems, hitem] at hitems ⊢
      simp only [List.cons_append, List.append_assoc, List.nil_append] at hitems ⊢
      rw [scanValue_array (spacing.allSpace_line _) hspace hbracket, hitems]
      rfl
  | .object [] => rfl
  | .object ((key, value) :: members) =>
      rw [Value.Fits] at hfits
      rw [Value.spaced] at hfuel ⊢
      have hless :
          2 * (spacedMembers spacing (level + 1) ((key, value) :: members)).length + 1 ≤ fuel := by
        simp only [List.length_append, List.length_cons] at hfuel
        omega
      have hmembers := scanMembers_spaced spacing (level + 1) ((key, value) :: members)
        (List.cons_ne_nil _ _) hfits (spacing.allSpace_line level) rest hless
      rw [spacedMembers] at hmembers ⊢
      simp only [List.cons_append, List.append_assoc, List.nil_append] at hmembers ⊢
      rw [scanValue_object (spacing.allSpace_line _) (by decide) (by decide), hmembers]
      rfl
termination_by structural value

theorem scanItems_spaced (spacing : Spacing) (level : Nat) (items : List Value)
    (hsome : items ≠ []) (hfits : ItemsFit items) {gap : List Char} (hgap : AllSpace gap)
    (rest : List Char) {fuel : Nat}
    (hfuel : 2 * (spacedItems spacing level items).length + 1 ≤ fuel) :
    scanItems fuel (spacedItems spacing level items ++ (gap ++ ']' :: rest)) =
      (itemReadings items, none, some rest) := by
  obtain ⟨fuel, rfl⟩ : ∃ less, fuel = less + 1 := ⟨fuel - 1, by omega⟩
  match items with
  | [] => exact absurd rfl hsome
  | [item] =>
      rw [spacedItems_singleton] at hfuel ⊢
      have hless : 2 * (item.spaced spacing level).length ≤ fuel := by
        rw [List.length_append] at hfuel
        omega
      have hends : EndsNumber (gap ++ ']' :: rest) :=
        endsNumber_append hgap (endsNumber_separator (by simp) rest)
      have hitem := scanValue_spaced spacing level item hfits.1 hends hless
      rw [List.append_assoc, scanItems_append (spacing.allSpace_line level)]
      exact scanItems_last hitem hgap
  | item :: next :: items =>
      rw [spacedItems_cons_cons] at hfuel ⊢
      simp only [List.length_append, List.length_cons] at hfuel
      have hless : 2 * (item.spaced spacing level).length ≤ fuel := by omega
      have hmore : 2 * (spacedItems spacing level (next :: items)).length + 1 ≤ fuel := by omega
      have hends : EndsNumber
          (',' :: (spacedItems spacing level (next :: items) ++ (gap ++ ']' :: rest))) :=
        endsNumber_separator (by simp) _
      have hitem := scanValue_spaced spacing level item hfits.1 hends hless
      have hitems := scanItems_spaced spacing level (next :: items) (List.cons_ne_nil _ _)
        hfits.2 hgap rest hmore
      rw [List.append_assoc, scanItems_append (spacing.allSpace_line level), List.append_assoc,
        List.cons_append, scanItems_more hitem, hitems]
      rfl
termination_by structural items

theorem scanMembers_spaced (spacing : Spacing) (level : Nat) (members : List (String × Value))
    (hsome : members ≠ []) (hfits : MembersFit members) {gap : List Char}
    (hgap : AllSpace gap) (rest : List Char) {fuel : Nat}
    (hfuel : 2 * (spacedMembers spacing level members).length + 1 ≤ fuel) :
    scanMembers fuel (spacedMembers spacing level members ++ (gap ++ '}' :: rest)) =
      (memberReadings members, none, some rest) := by
  obtain ⟨fuel, rfl⟩ : ∃ less, fuel = less + 1 := ⟨fuel - 1, by omega⟩
  match members with
  | [] => exact absurd rfl hsome
  | [(key, value)] =>
      rw [spacedMembers_singleton] at hfuel ⊢
      have hless : 2 * (value.spaced spacing level).length ≤ fuel := by
        simp only [List.length_append, List.length_cons] at hfuel
        omega
      have hends : EndsNumber (gap ++ '}' :: rest) :=
        endsNumber_append hgap (endsNumber_separator (by simp) rest)
      have hvalue := scanValue_spaced spacing level value hfits.1 hends hless
      rw [← scanValue_append spacing.allSpace_afterColon] at hvalue
      simp only [List.append_assoc, List.cons_append]
      rw [scanMembers_append (spacing.allSpace_line level)]
      exact scanMembers_last hvalue hgap
  | (key, value) :: next :: members =>
      rw [spacedMembers_cons_cons] at hfuel ⊢
      simp only [List.length_append, List.length_cons] at hfuel
      have hless : 2 * (value.spaced spacing level).length ≤ fuel := by omega
      have hmore : 2 * (spacedMembers spacing level (next :: members)).length + 1 ≤ fuel := by
        omega
      have hends : EndsNumber
          (',' :: (spacedMembers spacing level (next :: members) ++ (gap ++ '}' :: rest))) :=
        endsNumber_separator (by simp) _
      have hvalue := scanValue_spaced spacing level value hfits.1 hends hless
      have hmembers := scanMembers_spaced spacing level (next :: members)
        (List.cons_ne_nil _ _) hfits.2 hgap rest hmore
      rw [← scanValue_append spacing.allSpace_afterColon] at hvalue
      simp only [List.append_assoc, List.cons_append]
      rw [scanMembers_append (spacing.allSpace_line level), scanMembers_more hvalue, hmembers]
      rfl
termination_by structural members

end

/-- The whole text of a value holds its reading and nothing after it. -/
theorem scan_spaced (spacing : Spacing) (value : Value) (hfits : value.Fits) :
    scan (value.spaced spacing 0) = (value.reading, some []) := by
  have hends : EndsNumber [] := fun c hc => by simp at hc
  have hscan := scanValue_spaced spacing 0 value hfits hends
    (Nat.le_add_right (2 * (value.spaced spacing 0).length) 2)
  rw [List.append_nil] at hscan
  exact hscan

end ChatFlow.Json
