import ChatFlow.Proofs.Text.Layout
import ChatFlow.Source.Construct
import Mathlib.Data.List.Basic
import Mathlib.Data.List.TakeWhile

/-!
# The grammar of meaningful lines

Each construct but the unrecognised one has its written forms.  A recogniser
accepts exactly the forms of its construct, and no line is a form of two
constructs.  So the order in which the recognisers are tried does not matter:
a line is read as the construct that it is a form of, and a line that is a
form of none is kept as it is.
-/

namespace ChatFlow.Source

open ChatFlow.Text

/-- The ways to write a construct on a line without white space around it. -/
inductive Construct.Written : Construct → List Char → Prop
  | entryName : Written .entryHeader entryName.toList
  | entryHeader {gap : List Char} (hgap : AllBlank gap) :
      Written .entryHeader (entryName.toList ++ gap ++ [':'])
  | flowHeader {name : String} {gap after : List Char} (hgap : AllBlank gap)
      (hsome : gap ≠ []) (hafter : AllBlank after) (hname : isIdentifier name.toList = true) :
      Written (.flowHeader name) ("fluxo".toList ++ (gap ++ name.toList ++ after) ++ [':'])
  | messageOpener {gap : List Char} (hgap : AllBlank gap) :
      Written .messageOpener ("mensagem".toList ++ gap ++ [':'])
  | buttonOpener {index : String} {gap after : List Char} (hgap : AllBlank gap)
      (hafter : AllBlank after) (hsome : index.toList ≠ [])
      (hdigits : ∀ c ∈ index.toList, c.isDigit = true) :
      Written (.buttonOpener index) ("botao".toList ++ (gap ++ index.toList ++ after) ++ [':'])
  | quoted (text : String) : Written (.quoted text) ('"' :: text.toList ++ ['"'])
  | arrow {label target : String} {before after rest : List Char}
      (hlabel : label.toList ≠ []) (hquote : '"' ∉ label.toList) (hbefore : AllBlank before)
      (hafter : AllBlank after) (hrest : AllBlank rest)
      (htarget : isIdentifier target.toList = true) :
      Written (.arrow label target)
        ('"' :: label.toList ++ '"' :: (before ++ '-' :: '>' :: (after ++ target.toList ++ rest)))
  | terminator : Written .terminator "fim".toList

/-! ## Trimmed words -/

theorem trim_word {word : List Char} (hword : ∀ c ∈ word, isBlank c = false) :
    trim word = word := by
  apply trim_eq_self
  · exact fun c hmem => hword c (List.mem_of_mem_head? hmem)
  · exact fun c hmem => hword c (List.mem_of_mem_getLast? hmem)

theorem trim_padded_identifier {name before after : List Char} (hbefore : AllBlank before)
    (hafter : AllBlank after) (hname : isIdentifier name = true) :
    trim (before ++ name ++ after) = name := by
  rw [trim_padded hbefore hafter]
  apply trim_word
  exact fun c hmem => isBlank_eq_false_of_isNameChar ((isIdentifier_iff.mp hname).2 c hmem)

namespace Construct

/-! ## Recognisers -/

theorem body?_eq_some_iff {keyword : String} {line rest : List Char} :
    body? keyword line = some rest ↔ line = keyword.toList ++ rest ++ [':'] := by
  simp only [body?, Option.bind_eq_some_iff, List.isPrefixOf?_eq_some_iff_append_eq,
    List.isSuffixOf?_eq_some_iff_append_eq]
  constructor
  · rintro ⟨afterKeyword, rfl, rfl⟩
    simp
  · rintro rfl
    exact ⟨rest ++ [':'], by simp, rfl⟩

theorem isOpener_iff {keyword : String} {line : List Char} :
    isOpener keyword line = true ↔
      ∃ gap, AllBlank gap ∧ line = keyword.toList ++ gap ++ [':'] := by
  unfold isOpener
  cases hbody : body? keyword line with
  | none =>
      have hnone : ¬ ∃ gap, AllBlank gap ∧ line = keyword.toList ++ gap ++ [':'] := by
        rintro ⟨gap, -, hline⟩
        rw [body?_eq_some_iff.mpr hline] at hbody
        contradiction
      simpa using hnone
  | some rest =>
      have hline := body?_eq_some_iff.mp hbody
      rw [Option.any_some, List.all_eq_true]
      constructor
      · exact fun hrest => ⟨rest, hrest, hline⟩
      · rintro ⟨gap, hgap, hother⟩
        have hgapRest := hbody.symm.trans (body?_eq_some_iff.mpr hother)
        rw [Option.some.inj hgapRest]
        exact hgap

theorem entryHeader?_eq_some_iff {line : List Char} {construct : Construct} :
    entryHeader? line = some construct ↔
      construct = .entryHeader ∧ Written .entryHeader line := by
  unfold entryHeader?
  rw [Option.ite_none_right_eq_some, Bool.or_eq_true, decide_eq_true_eq, isOpener_iff,
    Option.some.injEq, eq_comm (a := Construct.entryHeader), and_comm]
  refine and_congr_right fun _ => ?_
  constructor
  · rintro (rfl | ⟨gap, hgap, rfl⟩)
    · exact .entryName
    · exact .entryHeader hgap
  · intro hwritten
    cases hwritten with
    | entryName => exact Or.inl rfl
    | @entryHeader gap hgap => exact Or.inr ⟨gap, hgap, rfl⟩

theorem messageOpener?_eq_some_iff {line : List Char} {construct : Construct} :
    messageOpener? line = some construct ↔
      construct = .messageOpener ∧ Written .messageOpener line := by
  unfold messageOpener?
  rw [Option.ite_none_right_eq_some, isOpener_iff, Option.some.injEq,
    eq_comm (a := Construct.messageOpener), and_comm]
  refine and_congr_right fun _ => ?_
  constructor
  · rintro ⟨gap, hgap, rfl⟩
    exact .messageOpener hgap
  · intro hwritten
    cases hwritten with
    | @messageOpener gap hgap => exact ⟨gap, hgap, rfl⟩

theorem flowHeader?_eq_some_iff {line : List Char} {construct : Construct} :
    flowHeader? line = some construct ↔
      ∃ name, construct = .flowHeader name ∧ Written (.flowHeader name) line := by
  simp only [flowHeader?, Option.bind_eq_some_iff, body?_eq_some_iff,
    Option.ite_none_right_eq_some, Bool.and_eq_true, Option.some.injEq]
  constructor
  · rintro ⟨rest, rfl, ⟨hhead, hname⟩, rfl⟩
    -- The padding of the name is not empty, since the name has no white space.
    obtain ⟨gap, after, hgap, hafter, hrest⟩ := exists_trim_padding rest
    refine ⟨_, rfl, ?_⟩
    have hsome : gap ≠ [] := by
      rintro rfl
      obtain ⟨hne, hchars⟩ := isIdentifier_iff.mp hname
      obtain ⟨c, chars, hcons⟩ := List.exists_cons_of_ne_nil hne
      rw [hrest, hcons] at hhead
      have hc : isBlank c = true := by simpa using hhead
      rw [isBlank_eq_false_of_isNameChar (hchars c (by simp [hcons]))] at hc
      contradiction
    have hchars := String.toList_ofList (l := trim rest)
    have hwritten := Written.flowHeader hgap hsome hafter (hchars.symm ▸ hname)
    rwa [hchars, ← hrest] at hwritten
  · rintro ⟨name, rfl, hwritten⟩
    cases hwritten with
    | @flowHeader _ gap after hgap hsome hafter hname =>
        have htrim := trim_padded_identifier hgap hafter hname
        obtain ⟨c, chars, rfl⟩ := List.exists_cons_of_ne_nil hsome
        refine ⟨_, rfl, ⟨?_, ?_⟩, ?_⟩
        · simp [hgap c]
        · rwa [htrim]
        · rw [htrim, String.ofList_toList]

theorem buttonOpener?_eq_some_iff {line : List Char} {construct : Construct} :
    buttonOpener? line = some construct ↔
      ∃ index, construct = .buttonOpener index ∧ Written (.buttonOpener index) line := by
  simp only [buttonOpener?, Option.bind_eq_some_iff, body?_eq_some_iff,
    Option.ite_none_right_eq_some, Bool.and_eq_true, Option.some.injEq, Bool.not_eq_true',
    List.isEmpty_eq_false_iff, List.all_eq_true]
  constructor
  · rintro ⟨rest, rfl, ⟨hsome, hdigits⟩, rfl⟩
    obtain ⟨gap, after, hgap, hafter, hrest⟩ := exists_trim_padding rest
    refine ⟨_, rfl, ?_⟩
    have hchars := String.toList_ofList (l := trim rest)
    have hwritten := Written.buttonOpener hgap hafter (hchars.symm ▸ hsome)
      (hchars.symm ▸ hdigits)
    rwa [hchars, ← hrest] at hwritten
  · rintro ⟨index, rfl, hwritten⟩
    cases hwritten with
    | @buttonOpener _ gap after hgap hafter hsome hdigits =>
        have htrim : trim (gap ++ index.toList ++ after) = index.toList := by
          rw [trim_padded hgap hafter]
          apply trim_word
          exact fun c hmem =>
            isBlank_eq_false_of_isDigit (hdigits c hmem)
        refine ⟨_, rfl, ⟨?_, ?_⟩, ?_⟩
        · rwa [htrim]
        · rwa [htrim]
        · rw [htrim, String.ofList_toList]

theorem quoted?_eq_some_iff {line : List Char} {construct : Construct} :
    quoted? line = some construct ↔
      ∃ text, construct = .quoted text ∧ Written (.quoted text) line := by
  simp only [quoted?, Option.bind_eq_some_iff, Option.map_eq_some_iff,
    List.isPrefixOf?_eq_some_iff_append_eq, List.isSuffixOf?_eq_some_iff_append_eq]
  constructor
  · rintro ⟨rest, rfl, text, rfl, rfl⟩
    refine ⟨_, rfl, ?_⟩
    have hwritten := Written.quoted (String.ofList text)
    rwa [String.toList_ofList (l := text)] at hwritten
  · rintro ⟨text, rfl, hwritten⟩
    cases hwritten
    exact ⟨text.toList ++ ['"'], rfl, text.toList, rfl, by rw [String.ofList_toList]⟩

theorem takeWhile_ne_quote {label : List Char} (hquote : '"' ∉ label) (rest : List Char) :
    (label ++ '"' :: rest).takeWhile (· != '"') = label ∧
      (label ++ '"' :: rest).dropWhile (· != '"') = '"' :: rest := by
  have hall : ∀ c ∈ label, (c != '"') = true := by
    intro c hmem
    rw [bne_iff_ne]
    exact fun hc => hquote (hc ▸ hmem)
  rw [List.takeWhile_append_of_pos hall, List.dropWhile_append_of_pos hall]
  simp

theorem arrow?_eq_some_iff {line : List Char} {construct : Construct} :
    arrow? line = some construct ↔
      ∃ label target, construct = .arrow label target ∧
        Written (.arrow label target) line := by
  simp only [arrow?, Option.bind_eq_some_iff, List.isPrefixOf?_eq_some_iff_append_eq,
    Option.ite_none_right_eq_some, Bool.and_eq_true, Option.some.injEq, Bool.not_eq_true',
    List.isEmpty_eq_false_iff]
  constructor
  · rintro ⟨rest, rfl, afterLabel, hlabelEnd, afterArrow, harrow, ⟨hlabel, htarget⟩, rfl⟩
    have hrest : rest = rest.takeWhile (· != '"') ++ '"' :: afterLabel := by
      have hsplit := (List.takeWhile_append_dropWhile (p := (· != '"')) (l := rest)).symm
      rwa [← hlabelEnd] at hsplit
    have hquote : '"' ∉ rest.takeWhile (· != '"') := by
      intro hmem
      simpa using List.mem_takeWhile_imp hmem
    have hbefore : AllBlank (afterLabel.takeWhile isBlank) :=
      fun c hmem => List.mem_takeWhile_imp hmem
    have hafterLabel :
        afterLabel = afterLabel.takeWhile isBlank ++ '-' :: '>' :: afterArrow := by
      have hsplit := (List.takeWhile_append_dropWhile (p := isBlank) (l := afterLabel)).symm
      rwa [show afterLabel.dropWhile isBlank = _ from harrow.symm] at hsplit
    obtain ⟨before, after, hbeforeTarget, hafterTarget, hafterArrow⟩ :=
      exists_trim_padding afterArrow
    refine ⟨_, _, rfl, ?_⟩
    have hlabelChars := String.toList_ofList (l := rest.takeWhile (· != '"'))
    have htargetChars := String.toList_ofList (l := trim afterArrow)
    have hwritten := Written.arrow (hlabelChars.symm ▸ hlabel) (hlabelChars.symm ▸ hquote)
      hbefore hbeforeTarget hafterTarget (htargetChars.symm ▸ htarget)
    rw [hlabelChars, htargetChars, ← hafterArrow, ← hafterLabel, List.cons_append,
      ← hrest] at hwritten
    exact hwritten
  · rintro ⟨label, target, rfl, hwritten⟩
    cases hwritten with
    | @arrow _ _ before after rest hlabel hquote hbefore hafter hrest htarget =>
        obtain ⟨htake, hdrop⟩ := takeWhile_ne_quote hquote
          (before ++ '-' :: '>' :: (after ++ target.toList ++ rest))
        have htrim := trim_padded_identifier hafter hrest htarget
        have hstart :
            trimStart (before ++ '-' :: '>' :: (after ++ target.toList ++ rest)) =
              '-' :: '>' :: (after ++ target.toList ++ rest) := by
          rw [trimStart_append_blank hbefore]
          rfl
        refine ⟨label.toList ++
            '"' :: (before ++ '-' :: '>' :: (after ++ target.toList ++ rest)), rfl,
          before ++ '-' :: '>' :: (after ++ target.toList ++ rest), hdrop.symm,
          after ++ target.toList ++ rest, hstart.symm, ⟨?_, ?_⟩, ?_⟩
        · rwa [htake]
        · rwa [htrim]
        · rw [htake, htrim, String.ofList_toList, String.ofList_toList]

theorem terminator?_eq_some_iff {line : List Char} {construct : Construct} :
    terminator? line = some construct ↔
      construct = .terminator ∧ Written .terminator line := by
  unfold terminator?
  rw [Option.ite_none_right_eq_some, Option.some.injEq, eq_comm (a := Construct.terminator),
    and_comm]
  refine and_congr_right fun _ => ?_
  constructor
  · rintro rfl
    exact .terminator
  · intro hwritten
    cases hwritten
    rfl

/-! ## Reading a line -/

/-- The character that every form of a construct starts with. -/
def firstChar? : Construct → Option Char
  | .entryHeader => some 'i'
  | .flowHeader _ | .terminator => some 'f'
  | .messageOpener => some 'm'
  | .buttonOpener _ => some 'b'
  | .quoted _ | .arrow .. => some '"'
  | .unrecognized _ => none

theorem Written.head?_eq {construct : Construct} {line : List Char}
    (hwritten : Written construct line) : line.head? = construct.firstChar? := by
  cases hwritten <;> rfl

theorem Written.not_flowHeader_terminator {name : String} {line : List Char}
    (hflow : Written (.flowHeader name) line) (hterminator : Written .terminator line) :
    False := by
  cases hterminator
  generalize hline : "fim".toList = line at hflow
  cases hflow
  simp at hline

theorem Written.not_quoted_arrow {text label target : String} {line : List Char}
    (hquoted : Written (.quoted text) line) (harrow : Written (.arrow label target) line) :
    False := by
  have hlast : line.getLast? = some '"' := by
    cases hquoted
    exact List.getLast?_concat
  cases harrow with
  | @arrow _ _ before after rest hlabel hquote hbefore hafter hrest htarget =>
      have hsplit :
          '"' :: label.toList ++
              '"' :: (before ++ '-' :: '>' :: (after ++ target.toList ++ rest)) =
            ('"' :: label.toList ++ '"' :: (before ++ '-' :: '>' :: after)) ++
              (target.toList ++ rest) := by
        simp
      have hsome : target.toList ++ rest ≠ [] := by
        simp [(isIdentifier_iff.mp htarget).1]
      rw [hsplit, List.getLast?_append_of_ne_nil _ hsome] at hlast
      rcases List.mem_append.mp (List.mem_of_getLast? hlast) with hmem | hmem
      · have hname := (isIdentifier_iff.mp htarget).2 '"' hmem
        exact absurd hname (by decide)
      · exact absurd (hrest '"' hmem) (by decide)

/-- No line is a form of two constructs. -/
theorem Written.unique {first second : Construct} {line : List Char}
    (hfirst : Written first line) (hsecond : Written second line) : first = second := by
  -- The first character leaves two constructs of one kind, or one of two pairs;
  -- two of one kind are what their recogniser finds.
  have hchar : first.firstChar? = second.firstChar? :=
    hfirst.head?_eq.symm.trans hsecond.head?_eq
  cases first with
  | entryHeader =>
      cases second with
      | entryHeader => rfl
      | _ => simp [firstChar?] at hchar
  | flowHeader name =>
      cases second with
      | flowHeader other =>
          exact Option.some.inj
            ((flowHeader?_eq_some_iff.mpr ⟨name, rfl, hfirst⟩).symm.trans
              (flowHeader?_eq_some_iff.mpr ⟨other, rfl, hsecond⟩))
      | terminator => exact (hfirst.not_flowHeader_terminator hsecond).elim
      | _ => simp [firstChar?] at hchar
  | messageOpener =>
      cases second with
      | messageOpener => rfl
      | _ => simp [firstChar?] at hchar
  | buttonOpener index =>
      cases second with
      | buttonOpener other =>
          exact Option.some.inj
            ((buttonOpener?_eq_some_iff.mpr ⟨index, rfl, hfirst⟩).symm.trans
              (buttonOpener?_eq_some_iff.mpr ⟨other, rfl, hsecond⟩))
      | _ => simp [firstChar?] at hchar
  | quoted text =>
      cases second with
      | quoted other =>
          exact Option.some.inj
            ((quoted?_eq_some_iff.mpr ⟨text, rfl, hfirst⟩).symm.trans
              (quoted?_eq_some_iff.mpr ⟨other, rfl, hsecond⟩))
      | arrow label target => exact (hfirst.not_quoted_arrow hsecond).elim
      | _ => simp [firstChar?] at hchar
  | arrow label target =>
      cases second with
      | quoted text => exact (hsecond.not_quoted_arrow hfirst).elim
      | arrow otherLabel otherTarget =>
          exact Option.some.inj
            ((arrow?_eq_some_iff.mpr ⟨label, target, rfl, hfirst⟩).symm.trans
              (arrow?_eq_some_iff.mpr ⟨otherLabel, otherTarget, rfl, hsecond⟩))
      | _ => simp [firstChar?] at hchar
  | terminator =>
      cases second with
      | flowHeader name => exact (hsecond.not_flowHeader_terminator hfirst).elim
      | terminator => rfl
      | _ => simp [firstChar?] at hchar
  | unrecognized text => cases hfirst

/-- What the first recogniser that fits finds. -/
def recognise? (line : List Char) : Option Construct :=
  entryHeader? line <|> flowHeader? line <|> messageOpener? line <|>
    buttonOpener? line <|> quoted? line <|> arrow? line <|> terminator? line

theorem ofLine_eq_recognise? (line : String) :
    ofLine line = (recognise? line.toList).getD (.unrecognized line) := rfl

/-- The recognisers in the order in which they are tried. -/
def recognisers : List (List Char → Option Construct) :=
  [entryHeader?, flowHeader?, messageOpener?, buttonOpener?, quoted?, arrow?, terminator?]

theorem recognise?_eq_findSome? (line : List Char) :
    recognise? line = recognisers.findSome? (· line) := by
  have hcons (first : List Char → Option Construct) (rest : List (List Char → Option Construct)) :
      (first :: rest).findSome? (· line) = (first line).or (rest.findSome? (· line)) := by
    rw [← List.singleton_append, List.findSome?_append, List.findSome?_singleton]
  simp only [recognise?, recognisers, hcons, List.findSome?_nil, Option.or_none,
    Option.orElse_eq_orElse, Option.orElse_eq_or]

theorem written_of_mem_recognisers {recogniser : List Char → Option Construct}
    (hmem : recogniser ∈ recognisers) {line : List Char} {construct : Construct}
    (hfound : recogniser line = some construct) : Written construct line := by
  simp only [recognisers, List.mem_cons, List.not_mem_nil, or_false] at hmem
  rcases hmem with rfl | rfl | rfl | rfl | rfl | rfl | rfl
  · obtain ⟨rfl, hwritten⟩ := entryHeader?_eq_some_iff.mp hfound
    exact hwritten
  · obtain ⟨name, rfl, hwritten⟩ := flowHeader?_eq_some_iff.mp hfound
    exact hwritten
  · obtain ⟨rfl, hwritten⟩ := messageOpener?_eq_some_iff.mp hfound
    exact hwritten
  · obtain ⟨index, rfl, hwritten⟩ := buttonOpener?_eq_some_iff.mp hfound
    exact hwritten
  · obtain ⟨text, rfl, hwritten⟩ := quoted?_eq_some_iff.mp hfound
    exact hwritten
  · obtain ⟨label, target, rfl, hwritten⟩ := arrow?_eq_some_iff.mp hfound
    exact hwritten
  · obtain ⟨rfl, hwritten⟩ := terminator?_eq_some_iff.mp hfound
    exact hwritten

/-- Every form of a construct has a recogniser that finds the construct. -/
theorem exists_recogniser_of_written {line : List Char} {construct : Construct}
    (hwritten : Written construct line) :
    ∃ recogniser ∈ recognisers, recogniser line = some construct := by
  cases construct with
  | entryHeader =>
      exact ⟨entryHeader?, by simp [recognisers], entryHeader?_eq_some_iff.mpr ⟨rfl, hwritten⟩⟩
  | flowHeader name =>
      exact ⟨flowHeader?, by simp [recognisers],
        flowHeader?_eq_some_iff.mpr ⟨name, rfl, hwritten⟩⟩
  | messageOpener =>
      exact ⟨messageOpener?, by simp [recognisers],
        messageOpener?_eq_some_iff.mpr ⟨rfl, hwritten⟩⟩
  | buttonOpener index =>
      exact ⟨buttonOpener?, by simp [recognisers],
        buttonOpener?_eq_some_iff.mpr ⟨index, rfl, hwritten⟩⟩
  | quoted text =>
      exact ⟨quoted?, by simp [recognisers], quoted?_eq_some_iff.mpr ⟨text, rfl, hwritten⟩⟩
  | arrow label target =>
      exact ⟨arrow?, by simp [recognisers],
        arrow?_eq_some_iff.mpr ⟨label, target, rfl, hwritten⟩⟩
  | terminator =>
      exact ⟨terminator?, by simp [recognisers],
        terminator?_eq_some_iff.mpr ⟨rfl, hwritten⟩⟩
  | unrecognized text => cases hwritten

/-- In any order, the first recogniser that fits finds the construct that the
line is a form of. -/
theorem findSome?_eq_some_iff {order : List (List Char → Option Construct)}
    (horder : order.Perm recognisers) {line : List Char} {construct : Construct} :
    order.findSome? (· line) = some construct ↔ Written construct line := by
  have hsound {found : Construct} (hfound : order.findSome? (· line) = some found) :
      Written found line := by
    obtain ⟨recogniser, hmem, hfinds⟩ := List.exists_of_findSome?_eq_some hfound
    exact written_of_mem_recognisers (horder.mem_iff.mp hmem) hfinds
  constructor
  · exact hsound
  · intro hwritten
    -- Some recogniser fits, and what the first one finds has the same form.
    obtain ⟨recogniser, hmem, hfinds⟩ := exists_recogniser_of_written hwritten
    have hsome : (order.findSome? (· line)).isSome = true :=
      List.findSome?_isSome_iff.mpr ⟨recogniser, horder.mem_iff.mpr hmem, by rw [hfinds]; rfl⟩
    obtain ⟨found, hfound⟩ := Option.isSome_iff_exists.mp hsome
    rw [hfound, (hsound hfound).unique hwritten]

theorem recognise?_eq_some_iff {line : List Char} {construct : Construct} :
    recognise? line = some construct ↔ Written construct line := by
  rw [recognise?_eq_findSome?, findSome?_eq_some_iff (List.Perm.refl recognisers)]

theorem ofLine_eq_of_written {line : String} {construct : Construct}
    (hwritten : Written construct line.toList) : ofLine line = construct := by
  rw [ofLine_eq_recognise?, recognise?_eq_some_iff.mpr hwritten, Option.getD_some]

theorem ofLine_eq_unrecognized {line : String}
    (hnone : ∀ construct, ¬ Written construct line.toList) :
    ofLine line = .unrecognized line := by
  have hunfound : recognise? line.toList = none := by
    rw [Option.eq_none_iff_forall_ne_some]
    exact fun construct hfound => hnone construct (recognise?_eq_some_iff.mp hfound)
  rw [ofLine_eq_recognise?, hunfound, Option.getD_none]

/-- A line is read as the construct that it is a form of, and is kept as it is if
it is a form of none. -/
theorem ofLine_eq_iff {line : String} {construct : Construct} :
    ofLine line = construct ↔
      Written construct line.toList ∨
        construct = .unrecognized line ∧ ∀ other, ¬ Written other line.toList := by
  constructor
  · rintro rfl
    by_cases hforms : ∃ form, Written form line.toList
    · obtain ⟨form, hform⟩ := hforms
      left
      rwa [ofLine_eq_of_written hform]
    · rw [not_exists] at hforms
      exact Or.inr ⟨ofLine_eq_unrecognized hforms, hforms⟩
  · rintro (hwritten | ⟨rfl, hnone⟩)
    · exact ofLine_eq_of_written hwritten
    · exact ofLine_eq_unrecognized hnone

/-- A line that is read as a construct is a form of it, unless it is kept as it is. -/
theorem written_of_ofLine {line : String} {construct : Construct}
    (hread : ofLine line = construct) :
    construct = .unrecognized line ∨ Written construct line.toList :=
  (ofLine_eq_iff.mp hread).symm.imp_left And.left

/-- A line is read as a construct if and only if it is one of its forms, and is
kept as it is if it is a form of none.  No line is a form of two constructs, so
the recognisers can be tried in any order. -/
theorem ofLine_reads_grammar (line : String) :
    (∀ construct, ofLine line = construct ↔
      Written construct line.toList ∨
        construct = .unrecognized line ∧ ∀ other, ¬ Written other line.toList) ∧
      (∀ first second, Written first line.toList → Written second line.toList →
        first = second) ∧
      ∀ order : List (List Char → Option Construct), order.Perm recognisers →
        (order.findSome? (· line.toList)).getD (.unrecognized line) = ofLine line := by
  refine ⟨fun _ => ofLine_eq_iff, fun _ _ => Written.unique, fun order horder => ?_⟩
  have hsame : order.findSome? (· line.toList) = recognise? line.toList := by
    apply Option.ext
    intro construct
    rw [findSome?_eq_some_iff horder, recognise?_eq_some_iff]
  rw [hsame, ofLine_eq_recognise?]

/-- A text with quotes and an arrow in it is a text, also if the recogniser of
arrows is tried before that of texts. -/
theorem ofLine_reads_grammar_inner_arrow :
    let line := "\"Oi\" -> \"menu\""
    let text := "Oi\" -> \"menu"
    (∀ construct, Written construct line.toList → construct = .quoted text) ∧
      ofLine line = .quoted text ∧
      (recognisers.reverse.findSome? (· line.toList)).getD (.unrecognized line) =
        .quoted text := by
  intro line text
  obtain ⟨hread, hunique, horder⟩ := ofLine_reads_grammar line
  have hquoted : Written (.quoted text) line.toList := by
    have hwritten := Written.quoted text
    rwa [show '"' :: text.toList ++ ['"'] = line.toList by decide +kernel] at hwritten
  have htext := (hread _).mpr (Or.inl hquoted)
  refine ⟨fun construct hother => hunique _ _ hother hquoted, htext, ?_⟩
  rw [horder _ (List.reverse_perm recognisers), htext]

end Construct

end ChatFlow.Source
