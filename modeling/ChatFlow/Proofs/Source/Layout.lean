import ChatFlow.Proofs.Source.Concatenation
import ChatFlow.Proofs.Source.Image
import ChatFlow.Proofs.Text.Digits
import Mathlib.Data.List.Forall2
import Mathlib.Logic.Relation

/-!
# Layouts of a source

A source can be laid out in many ways: with other white space around and inside
its lines, with or without the colon of the entry header, with other indices of
button openers, and with comments for blank lines.  Compiling sees none of this.
Two rows that differ in their layout are the same line but for the index of an
opener, and no step looks at the index.
-/

namespace ChatFlow.Source

open ChatFlow.Text

/-- A change to one row that keeps what it says.  Since a carriage return is white
space, rows may end with one or not. -/
inductive Edit : List Char → List Char → Prop
  | ends {before after : List Char} (row : List Char) (hbefore : AllBlank before)
      (hafter : AllBlank after) : Edit row (before ++ row ++ after)
  | entryColon : Edit (entryName.toList ++ [':']) entryName.toList
  | entryHeader {gap gap' : List Char} (hgap : AllBlank gap) (hgap' : AllBlank gap') :
      Edit (entryName.toList ++ gap ++ [':']) (entryName.toList ++ gap' ++ [':'])
  | flowHeader {name : String} {gap after gap' after' : List Char}
      (hname : isIdentifier name.toList = true)
      (hgap : AllBlank gap) (hsome : gap ≠ []) (hafter : AllBlank after)
      (hgap' : AllBlank gap') (hsome' : gap' ≠ []) (hafter' : AllBlank after') :
      Edit ("fluxo".toList ++ (gap ++ name.toList ++ after) ++ [':'])
        ("fluxo".toList ++ (gap' ++ name.toList ++ after') ++ [':'])
  | messageOpener {gap gap' : List Char} (hgap : AllBlank gap) (hgap' : AllBlank gap') :
      Edit ("mensagem".toList ++ gap ++ [':']) ("mensagem".toList ++ gap' ++ [':'])
  | buttonOpener {index index' : String} {gap after gap' after' : List Char}
      (hindex : isDigits index.toList = true) (hgap : AllBlank gap) (hafter : AllBlank after)
      (hindex' : isDigits index'.toList = true) (hgap' : AllBlank gap')
      (hafter' : AllBlank after') :
      Edit ("botao".toList ++ (gap ++ index.toList ++ after) ++ [':'])
        ("botao".toList ++ (gap' ++ index'.toList ++ after') ++ [':'])
  | arrow {label target : String} {before after before' after' : List Char}
      (hlabel : label.toList ≠ []) (hquote : '"' ∉ label.toList)
      (htarget : isIdentifier target.toList = true)
      (hbefore : AllBlank before) (hafter : AllBlank after)
      (hbefore' : AllBlank before') (hafter' : AllBlank after') :
      Edit ('"' :: label.toList ++ '"' :: (before ++ '-' :: '>' :: (after ++ target.toList)))
        ('"' :: label.toList ++ '"' :: (before' ++ '-' :: '>' :: (after' ++ target.toList)))
  | comment {row comment : List Char} (hrow : AllBlank row)
      (hcomment : isComment (trim comment) = true) : Edit row comment

/-- The sources have as many rows, and each two of one place are turned into each
other by any number of changes in both directions. -/
def SameButLayout (source other : String) : Prop :=
  List.Forall₂ (Relation.EqvGen Edit) (stretches source.toList) (stretches other.toList)

/-! ## Lines without indices -/

def Construct.withoutIndex : Construct → Construct
  | .buttonOpener _ => .buttonOpener ""
  | construct => construct

def Line.withoutIndex (line : Line) : Line :=
  { line with construct := line.construct.withoutIndex }

theorem Progress.step_withoutIndex (progress : Progress) (line : Line) :
    progress.step line.withoutIndex = progress.step line := by
  obtain ⟨number, construct⟩ := line
  cases construct <;> rfl

theorem Line.withoutIndex_ne_terminator_iff (line : Line) :
    line.withoutIndex.construct ≠ .terminator ↔ line.construct ≠ .terminator := by
  obtain ⟨number, construct⟩ := line
  cases construct <;> simp [withoutIndex, Construct.withoutIndex]

theorem Compilation.ofLines_map_withoutIndex (found : List Line) :
    ofLines (found.map Line.withoutIndex) = ofLines found := by
  have hread : (found.map Line.withoutIndex).takeWhile (·.construct ≠ .terminator) =
      (found.takeWhile (·.construct ≠ .terminator)).map Line.withoutIndex := by
    rw [List.takeWhile_map]
    simp only [Function.comp_def, Line.withoutIndex_ne_terminator_iff]
  unfold ofLines
  rw [hread, List.foldl_map]
  simp only [Progress.step_withoutIndex]

/-! ## Changed rows -/

/-- The line of a row, but for the index of an opener. -/
def rowLine? (number : Nat) (row : List Char) : Option Line :=
  (Line.ofText? number row).map Line.withoutIndex

theorem rowLine?_of_written {construct : Construct} {row : List Char}
    (hwritten : construct.Written row) (hlast : ∀ c ∈ row.getLast?, isBlank c = false)
    (number : Nat) : rowLine? number row = some ⟨number, construct.withoutIndex⟩ := by
  rw [rowLine?, Line.ofText?_of_written hwritten hlast]
  rfl

theorem rowLine?_closed {construct : Construct} {before : List Char}
    (hwritten : construct.Written (before ++ [':'])) (number : Nat) :
    rowLine? number (before ++ [':']) = some ⟨number, construct.withoutIndex⟩ := by
  apply rowLine?_of_written hwritten
  intro c hlast
  rw [List.getLast?_concat] at hlast
  rw [← Option.some.inj hlast]
  decide

theorem rowLine?_arrow {label target : String} {before after : List Char}
    (hlabel : label.toList ≠ []) (hquote : '"' ∉ label.toList)
    (htarget : isIdentifier target.toList = true) (hbefore : AllBlank before)
    (hafter : AllBlank after) (number : Nat) :
    rowLine? number
        ('"' :: label.toList ++ '"' :: (before ++ '-' :: '>' :: (after ++ target.toList))) =
      some ⟨number, .arrow label target⟩ := by
  have hwritten := Construct.Written.arrow hlabel hquote hbefore hafter allBlank_nil htarget
  rw [List.append_nil] at hwritten
  apply rowLine?_of_written hwritten
  intro c hlast
  obtain ⟨hsome, hchars⟩ := isIdentifier_iff.mp htarget
  have hsplit :
      '"' :: label.toList ++ '"' :: (before ++ '-' :: '>' :: (after ++ target.toList)) =
        ('"' :: label.toList ++ '"' :: (before ++ '-' :: '>' :: after)) ++ target.toList := by
    simp
  rw [hsplit, List.getLast?_append_of_ne_nil _ hsome] at hlast
  exact isBlank_eq_false_of_isNameChar (hchars c (List.mem_of_getLast? hlast))

theorem rowLine?_of_allBlank {row : List Char} (hrow : AllBlank row) (number : Nat) :
    rowLine? number row = none := by
  unfold rowLine? Line.ofText?
  rw [trim_eq_nil_iff.mpr hrow]
  rfl

/-- A changed row is the same line but for the index of an opener. -/
theorem Edit.rowLine?_eq {row other : List Char} (hedit : Edit row other) (number : Nat) :
    rowLine? number row = rowLine? number other := by
  cases hedit with
  | ends row hbefore hafter =>
      unfold rowLine? Line.ofText?
      rw [trim_padded hbefore hafter]
  | entryColon =>
      have hclosed := rowLine?_closed (.entryHeader allBlank_nil) number
      have hlast : ∀ c ∈ entryName.toList.getLast?, isBlank c = false := by
        intro c hc
        rw [← (Option.some.inj hc : 'o' = c)]
        decide
      have hopen := rowLine?_of_written .entryName hlast number
      rw [List.append_nil] at hclosed
      rw [hclosed, hopen]
  | entryHeader hgap hgap' =>
      rw [rowLine?_closed (.entryHeader hgap), rowLine?_closed (.entryHeader hgap')]
  | flowHeader hname hgap hsome hafter hgap' hsome' hafter' =>
      rw [rowLine?_closed (.flowHeader hgap hsome hafter hname),
        rowLine?_closed (.flowHeader hgap' hsome' hafter' hname)]
  | messageOpener hgap hgap' =>
      rw [rowLine?_closed (.messageOpener hgap), rowLine?_closed (.messageOpener hgap')]
  | buttonOpener hindex hgap hafter hindex' hgap' hafter' =>
      obtain ⟨hsome, hdigits⟩ := (isDigits_iff _).mp hindex
      obtain ⟨hsome', hdigits'⟩ := (isDigits_iff _).mp hindex'
      rw [rowLine?_closed (.buttonOpener hgap hafter hsome hdigits),
        rowLine?_closed (.buttonOpener hgap' hafter' hsome' hdigits')]
      rfl
  | arrow hlabel hquote htarget hbefore hafter hbefore' hafter' =>
      rw [rowLine?_arrow hlabel hquote htarget hbefore hafter,
        rowLine?_arrow hlabel hquote htarget hbefore' hafter']
  | comment hrow hcomment =>
      rw [rowLine?_of_allBlank hrow]
      unfold rowLine? Line.ofText?
      rw [if_pos (by simp [hcomment]), Option.map_none]

theorem rowLine?_eq_of_eqvGen {row other : List Char}
    (hrows : Relation.EqvGen Edit row other) (number : Nat) :
    rowLine? number row = rowLine? number other := by
  induction hrows with
  | rel row other hedit => exact hedit.rowLine?_eq number
  | refl row => rfl
  | symm row other _ ih => exact ih.symm
  | trans row between other _ _ hfirst hsecond => exact hfirst.trans hsecond

theorem map_withoutIndex_meaningful_cons (first : Nat) (row : List Char)
    (rows : List (List Char)) :
    (meaningful first (row :: rows)).map Line.withoutIndex =
      (rowLine? first row).toList ++ (meaningful (first + 1) rows).map Line.withoutIndex := by
  rw [meaningful_cons, List.map_append, rowLine?]
  cases Line.ofText? first row <;> rfl

theorem map_meaningful_eq {rows others : List (List Char)}
    (hrows : List.Forall₂ (Relation.EqvGen Edit) rows others) (first : Nat) :
    (meaningful first rows).map Line.withoutIndex =
      (meaningful first others).map Line.withoutIndex := by
  induction hrows generalizing first with
  | nil => rfl
  | cons hrow _ ih =>
      rw [map_withoutIndex_meaningful_cons, map_withoutIndex_meaningful_cons,
        rowLine?_eq_of_eqvGen hrow, ih]

/-- Sources that differ in their layout have the same meaningful lines, but for the
indices of openers. -/
theorem SameButLayout.map_lines_eq {source other : String}
    (hlayout : SameButLayout source other) :
    (lines source).map Line.withoutIndex = (lines other).map Line.withoutIndex := by
  rw [lines_eq_meaningful, lines_eq_meaningful]
  exact map_meaningful_eq hlayout 1

namespace Compilation

/-- Sources that differ in their layout compile to the same program with the same
notes and header lines. -/
theorem ofSource_ignores_layout {source other : String}
    (hlayout : SameButLayout source other) : ofSource source = ofSource other := by
  unfold ofSource
  rw [← ofLines_map_withoutIndex (lines source), hlayout.map_lines_eq,
    ofLines_map_withoutIndex]

/-- Every row is laid out in another way here, and some in several. -/
theorem ofSource_ignores_layout_everywhere :
    let source := "inicio:\nmensagem:\n\"Oi\"\nbotao 1:\n\"Ir\" -> menu\nimagem\n\n" ++
      "fluxo menu:"
    let other := " inicio\r\nmensagem\t:\r\n\"Oi\"  \nbotao042 :\n\"Ir\"->\tmenu\n" ++
      "\u00a0imagem\n// menu\nfluxo\t menu :\r"
    SameButLayout source other ∧ ofSource source = ofSource other := by
  intro source other
  have hsource : stretches source.toList =
      [entryName.toList ++ [':'], "mensagem".toList ++ [] ++ [':'], "\"Oi\"".toList,
        "botao".toList ++ ([' '] ++ "1".toList ++ []) ++ [':'],
        '"' :: "Ir".toList ++ '"' :: ([' '] ++ '-' :: '>' :: ([' '] ++ "menu".toList)),
        "imagem".toList, [], "fluxo".toList ++ ([' '] ++ "menu".toList ++ []) ++ [':']] := by
    decide +kernel
  have hother : stretches other.toList =
      [[' '] ++ entryName.toList ++ ['\r'],
        [] ++ ("mensagem".toList ++ ['\t'] ++ [':']) ++ ['\r'],
        [] ++ "\"Oi\"".toList ++ [' ', ' '],
        "botao".toList ++ ([] ++ "042".toList ++ [' ']) ++ [':'],
        '"' :: "Ir".toList ++ '"' :: ([] ++ '-' :: '>' :: (['\t'] ++ "menu".toList)),
        ['\u00a0'] ++ "imagem".toList ++ [], "// menu".toList,
        [] ++ ("fluxo".toList ++ (['\t', ' '] ++ "menu".toList ++ [' ']) ++ [':']) ++ ['\r']] := by
    decide +kernel
  have hblank : AllBlank [' '] ∧ AllBlank ['\t'] ∧ AllBlank ['\r'] ∧ AllBlank [' ', ' '] ∧
      AllBlank ['\u00a0'] ∧ AllBlank ['\t', ' '] := by
    decide
  obtain ⟨hspace, htab, hreturn, hspaces, hfixed, hboth⟩ := hblank
  have hlayout : SameButLayout source other := by
    unfold SameButLayout
    rw [hsource, hother]
    refine .cons ?_ (.cons ?_ (.cons ?_ (.cons ?_ (.cons ?_ (.cons ?_ (.cons ?_ (.cons ?_
      .nil)))))))
    · exact .trans _ _ _ (.rel _ _ .entryColon) (.rel _ _ (.ends _ hspace hreturn))
    · exact .trans _ _ _ (.rel _ _ (.messageOpener allBlank_nil htab))
        (.rel _ _ (.ends _ allBlank_nil hreturn))
    · exact .rel _ _ (.ends _ allBlank_nil hspaces)
    · exact .rel _ _ (.buttonOpener (by decide) hspace allBlank_nil (by decide) allBlank_nil hspace)
    · exact .rel _ _ (.arrow (by decide) (by decide) (by decide) hspace hspace allBlank_nil htab)
    · exact .rel _ _ (.ends _ hfixed allBlank_nil)
    · exact .rel _ _ (.comment allBlank_nil (by decide))
    · exact .trans _ _ _
        (.rel _ _ (.flowHeader (by decide) hspace (by simp) allBlank_nil hboth (by simp) hspace))
        (.rel _ _ (.ends _ allBlank_nil hreturn))
  exact ⟨hlayout, ofSource_ignores_layout hlayout⟩

end Compilation

end ChatFlow.Source
