import ChatFlow.Proofs.Source.Concatenation
import ChatFlow.Proofs.Source.Notes
import Mathlib.Data.Finset.Insert
import Mathlib.Data.List.Basic

/-!
# Sources without their skipped lines

A line that is skipped leaves its note and nothing else: it opens and closes
nothing, and the lines below it mean what they mean without it.  So any of the
skipped lines of a source can be made blank at once.  The flows and their header
lines stay, and of the notes those on the other lines.
-/

namespace ChatFlow.Source

open ChatFlow.Text

/-- The cause skips the line that it is noted at, and no definition. -/
def Cause.SkipsLine : Cause → Prop
  | .unrecognized _ | .looseText | .looseButton => True
  | .emptyFlow _ | .redefinition _ => False

/-- The source with blank texts in place of the rows with the given numbers. -/
def blankRows (numbers : Finset Nat) (blank : Nat → List Char) (source : String) : String :=
  String.ofList (['\n'].intercalate (((stretches source.toList).zipIdx 1).map
    fun (row, number) => if number ∈ numbers then blank number else row))

/-! ## Lines of the changed source -/

theorem meaningful_blanked {numbers : Finset Nat} {blank : Nat → List Char}
    (hblank : ∀ number ∈ numbers, AllBlank (blank number)) (first : Nat)
    (rows : List (List Char)) :
    meaningful first ((rows.zipIdx first).map
        fun (row, number) => if number ∈ numbers then blank number else row) =
      (meaningful first rows).filter (·.number ∉ numbers) := by
  induction rows generalizing first with
  | nil => rfl
  | cons row rows ih =>
      rw [List.zipIdx_cons, List.map_cons, meaningful_cons, meaningful_cons, ih,
        List.filter_append]
      congr 1
      by_cases hmem : first ∈ numbers
      · have hnone : Line.ofText? first (blank first) = none := by
          unfold Line.ofText?
          rw [trim_eq_nil_iff.mpr (hblank first hmem)]
          rfl
        cases hline : Line.ofText? first row with
        | none => simp [hmem, hnone]
        | some line => simp [hmem, hnone, Line.number_of_ofText? hline]
      · cases hline : Line.ofText? first row with
        | none => simp [hmem, hline]
        | some line => simp [hmem, hline, Line.number_of_ofText? hline]

theorem lines_blankRows {numbers : Finset Nat} {blank : Nat → List Char}
    (hblank : ∀ number ∈ numbers, AllBlank (blank number) ∧ '\n' ∉ blank number)
    (source : String) :
    lines (blankRows numbers blank source) =
      (lines source).filter (·.number ∉ numbers) := by
  have hstretches : stretches (blankRows numbers blank source).toList =
      ((stretches source.toList).zipIdx 1).map
        fun (row, number) => if number ∈ numbers then blank number else row := by
    unfold blankRows
    rw [String.toList_ofList]
    apply stretches_intercalate
    · intro row hrow
      obtain ⟨⟨original, number⟩, hentry, rfl⟩ := List.mem_map.mp hrow
      dsimp only
      split
      next hmem => exact (hblank number hmem).2
      next => exact not_mem_of_mem_stretches (List.fst_mem_of_mem_zipIdx hentry)
    · simpa using stretches_ne_nil source.toList
  rw [lines_eq_meaningful, hstretches, lines_eq_meaningful]
  exact meaningful_blanked (fun number hmem => (hblank number hmem).1) 1 _

theorem takeWhile_filter_of_imp {α : Type} {keep before : α → Bool} {items : List α}
    (hdropped : ∀ item ∈ items, keep item = false → before item = true) :
    (items.filter keep).takeWhile before = (items.takeWhile before).filter keep := by
  induction items with
  | nil => rfl
  | cons item items ih =>
      have hrest := ih fun other hmem => hdropped other (List.mem_cons_of_mem _ hmem)
      cases hkeep : keep item with
      | true =>
          rw [List.filter_cons_of_pos hkeep]
          cases hbefore : before item <;> simp [hbefore, hkeep, hrest]
      | false =>
          have hbefore := hdropped item List.mem_cons_self hkeep
          simp [hbefore, hkeep, hrest]

/-! ## Progress without notes -/

namespace Progress

/-- The progress without the notes at lines with the given numbers. -/
def forget (numbers : Finset Nat) (progress : Progress) : Progress :=
  { progress with notes := progress.notes.filter (·.line ∉ numbers) }

@[simp] theorem program_forget (numbers : Finset Nat) (progress : Progress) :
    (progress.forget numbers).program = progress.program := rfl

@[simp] theorem headerLines_forget (numbers : Finset Nat) (progress : Progress) :
    (progress.forget numbers).headerLines = progress.headerLines := rfl

@[simp] theorem draft?_forget (numbers : Finset Nat) (progress : Progress) :
    (progress.forget numbers).draft? = progress.draft? := rfl

variable {numbers : Finset Nat} {progress : Progress}

theorem forget_note_of_mem {line : Nat} (hmem : line ∈ numbers) (cause : Cause) :
    (progress.note line cause).forget numbers = progress.forget numbers := by
  simp [forget, note, hmem]

theorem forget_note_of_not_mem {line : Nat} (hmem : line ∉ numbers) (cause : Cause) :
    (progress.note line cause).forget numbers = (progress.forget numbers).note line cause := by
  simp [forget, note, hmem]

theorem forget_commit (hdraft : ∀ draft ∈ progress.draft?, draft.line ∉ numbers) :
    progress.commit.forget numbers = (progress.forget numbers).commit := by
  unfold commit
  rw [draft?_forget]
  cases hopen : progress.draft? with
  | none => rfl
  | some draft =>
      have hline : draft.line ∉ numbers := hdraft draft hopen
      dsimp only
      split
      · exact forget_note_of_not_mem hline _
      · by_cases hreplaces : progress.program.contains draft.name = true
        · simp [forget, note, hreplaces, hline]
        · simp [forget, hreplaces]

theorem forget_within {line : Nat} (hmem : line ∉ numbers) (block : Block)
    (change : Draft → Draft) (otherwise : Cause) :
    (progress.within block change line otherwise).forget numbers =
      (progress.forget numbers).within block change line otherwise := by
  unfold within
  rw [draft?_forget]
  split
  · split
    · rfl
    · exact forget_note_of_not_mem hmem _
  · exact forget_note_of_not_mem hmem _

/-- Forgetting notes does not change what other lines do. -/
theorem forget_step {line : Line} (hmem : line.number ∉ numbers)
    (hdraft : ∀ draft ∈ progress.draft?, draft.line ∉ numbers) :
    (progress.step line).forget numbers = (progress.forget numbers).step line := by
  have hopenFlow (name : String) :
      (progress.openFlow name line.number).forget numbers =
        (progress.forget numbers).openFlow name line.number := by
    unfold openFlow
    rw [← forget_commit hdraft]
    rfl
  unfold step
  cases line.construct with
  | entryHeader => exact hopenFlow entryName
  | flowHeader name => exact hopenFlow name
  | messageOpener => rfl
  | buttonOpener index => rfl
  | quoted text => exact forget_within hmem _ _ _
  | arrow label target => exact forget_within hmem _ _ _
  | terminator => rfl
  | unrecognized text => exact forget_note_of_not_mem hmem _

/-- A line that is at fault where it stands leaves a note and nothing else. -/
theorem step_of_fault {read : List Line} (haccounts : progress.Accounts read) {line : Line}
    {cause : Cause} (hfault : line.construct.fault? (standing read) = some cause) :
    progress.step line = progress.note line.number cause := by
  have hwithin {block : Block} (hblock : standing read ≠ block) (change : Draft → Draft)
      (otherwise : Cause) :
      progress.within block change line.number otherwise =
        progress.note line.number otherwise := by
    unfold within
    rw [haccounts.draft]
    unfold standing at hblock
    cases hlast : (definitions read).getLast? with
    | none => rfl
    | some current =>
        rw [hlast] at hblock
        exact if_neg hblock
  unfold step
  cases hconstruct : line.construct with
  | quoted text =>
      rw [hconstruct, Construct.fault?, Option.ite_none_left_eq_some] at hfault
      obtain ⟨hblock, hcause⟩ := hfault
      rw [← Option.some.inj hcause]
      exact hwithin hblock _ _
  | arrow label target =>
      rw [hconstruct, Construct.fault?, Option.ite_none_left_eq_some] at hfault
      obtain ⟨hblock, hcause⟩ := hfault
      rw [← Option.some.inj hcause]
      exact hwithin hblock _ _
  | unrecognized text =>
      rw [hconstruct] at hfault
      obtain rfl := Option.some.inj hfault
      rfl
  | _ => simp [hconstruct, Construct.fault?] at hfault

end Progress

/-! ## Reading without faulty lines -/

/-- Every line with one of the numbers is at fault where it stands. -/
def AllFaulty (numbers : Finset Nat) (read : List Line) : Prop :=
  ∀ before line after, read = before ++ line :: after → line.number ∈ numbers →
    ∃ cause, line.construct.fault? (standing before) = some cause

theorem AllFaulty.of_append {numbers : Finset Nat} {read rest : List Line}
    (hfaulty : AllFaulty numbers (read ++ rest)) : AllFaulty numbers read := by
  rintro before line after rfl hmem
  exact hfaulty before line (after ++ rest) (by simp) hmem

/-- Headers are at no fault, so no draft is open at a line that is left out. -/
theorem AllFaulty.draft_line_not_mem {numbers : Finset Nat} {read : List Line}
    (hfaulty : AllFaulty numbers read) {progress : Progress}
    (haccounts : progress.Accounts read) :
    ∀ draft ∈ progress.draft?, draft.line ∉ numbers := by
  intro draft hdraft hmem
  rw [haccounts.draft] at hdraft
  obtain ⟨definition, hlast, rfl⟩ := Option.map_eq_some_iff.mp hdraft
  obtain ⟨header, hheader, hflow, hnumber, -⟩ :=
    exists_header_of_mem_definitions (List.mem_of_getLast? hlast)
  obtain ⟨before, after, hsplit⟩ := List.append_of_mem hheader
  have hfault := hfaulty before header after hsplit (hnumber ▸ hmem)
  cases hconstruct : header.construct <;>
    simp [hconstruct, Construct.flow?, Construct.fault?] at hflow hfault

/-- Reading only the other lines comes as far as reading all of them, but for the
notes on those left out. -/
theorem AllFaulty.forget_foldl_step {numbers : Finset Nat} {read : List Line}
    (hfaulty : AllFaulty numbers read) :
    (read.foldl Progress.step {}).forget numbers =
      (read.filter (·.number ∉ numbers)).foldl Progress.step {} := by
  induction read using List.reverseRecOn with
  | nil => rfl
  | append_singleton read line ih =>
      have hread := hfaulty.of_append
      have haccounts := Progress.initial_accounts.foldl_step read
      rw [List.foldl_append, List.foldl_cons, List.foldl_nil, List.filter_append,
        List.foldl_append, ← ih hread]
      by_cases hmem : line.number ∈ numbers
      · obtain ⟨cause, hfault⟩ := hfaulty read line [] rfl hmem
        rw [Progress.step_of_fault haccounts hfault, Progress.forget_note_of_mem hmem]
        simp [hmem]
      · rw [Progress.forget_step hmem (hread.draft_line_not_mem haccounts)]
        simp [hmem]

/-! ## Skipped lines -/

theorem eq_of_number_eq {found : List Line}
    (hincreasing : found.Pairwise fun a b => a.number < b.number) {line other : Line}
    (hline : line ∈ found) (hother : other ∈ found) (hnumber : line.number = other.number) :
    line = other := by
  have hnodup : (found.map (·.number)).Nodup :=
    List.pairwise_map.mpr (hincreasing.imp Nat.ne_of_lt)
  exact List.inj_on_of_nodup_map hnodup hline hother hnumber

/-- Some note says that the line with the number was skipped. -/
def Compilation.Skips (compilation : Compilation) (number : Nat) : Prop :=
  ∃ note ∈ compilation.notes, note.line = number ∧ note.cause.SkipsLine

/-- A line that was skipped is one of those read, and at fault where it stands. -/
theorem exists_fault_of_skips {source : String} {number : Nat}
    (hskips : (Compilation.ofSource source).Skips number) :
    ∃ before line after, readLines source = before ++ line :: after ∧ line.number = number ∧
      ∃ cause, line.construct.fault? (standing before) = some cause := by
  obtain ⟨note, hnote, rfl, hcause⟩ := hskips
  rw [(Compilation.notes_ofSource_perm source).mem_iff, List.mem_append] at hnote
  rcases hnote with hline | hheader
  · obtain ⟨before, line, after, hsplit, hfault⟩ := mem_judged_iff.mp hline
    obtain ⟨hnumber, hfault⟩ := map_mk_eq_some_iff.mp hfault
    exact ⟨before, line, after, hsplit, hnumber, note.cause, hfault⟩
  · -- Definitions are not skipped in this sense, but dropped or replaced.
    obtain ⟨earlier, definition, later, -, hfault⟩ := mem_judged_iff.mp hheader
    obtain ⟨-, hfault⟩ := map_mk_eq_some_iff.mp hfault
    unfold Definition.fault? at hfault
    split at hfault
    · rw [← Option.some.inj hfault] at hcause
      exact hcause.elim
    · split at hfault
      · rw [← Option.some.inj hfault] at hcause
        exact hcause.elim
      · contradiction

section Skipped

variable {source : String} {numbers : Finset Nat}

theorem allFaulty_of_skips
    (hskips : ∀ number ∈ numbers, (Compilation.ofSource source).Skips number) :
    AllFaulty numbers (readLines source) := by
  intro before line after hsplit hmem
  obtain ⟨earlier, other, later, hother, hnumber, hfault⟩ :=
    exists_fault_of_skips (hskips line.number hmem)
  have hincreasing : (readLines source).Pairwise fun a b => a.number < b.number :=
    (lines_increasing source).sublist (List.takeWhile_sublist _)
  obtain rfl : other = line :=
    eq_of_number_eq hincreasing (by simp [hother]) (by simp [hsplit]) hnumber
  -- The line is found at one place only, so the lines before it are the same.
  have hnodup : (earlier ++ other :: later).Nodup :=
    hother ▸ hincreasing.imp fun hlt heq => Nat.ne_of_lt hlt (congrArg Line.number heq)
  rw [List.nodup_middle, List.nodup_cons, List.mem_append, not_or] at hnodup
  obtain ⟨rfl, -, -⟩ := (List.append_cons_inj_of_notMem hnodup.1.1 hnodup.1.2).mp
    (hother.symm.trans hsplit)
  exact hfault

theorem readLines_filter_of_skips
    (hskips : ∀ number ∈ numbers, (Compilation.ofSource source).Skips number) :
    ((lines source).filter (·.number ∉ numbers)).takeWhile (·.construct ≠ .terminator) =
      (readLines source).filter (·.number ∉ numbers) := by
  apply takeWhile_filter_of_imp
  intro line hline hmem
  obtain ⟨before, other, after, hsplit, hnumber, -⟩ :=
    exists_fault_of_skips (hskips line.number (by simpa using hmem))
  have hother : other ∈ readLines source := by simp [hsplit]
  obtain rfl := eq_of_number_eq (lines_increasing source)
    ((List.takeWhile_sublist _).mem hother) hline hnumber
  have hcounts := List.mem_takeWhile_imp hother
  exact hcounts

end Skipped

namespace Compilation

@[ext] theorem ext {compilation other : Compilation}
    (hprogram : compilation.program = other.program)
    (hnotes : compilation.notes = other.notes)
    (hheaderLines : compilation.headerLines = other.headerLines) : compilation = other := by
  cases compilation
  cases other
  simp_all

/-- The notes increase, so they are told by which notes they are. -/
theorem notes_eq_of_perm {source : String} {found : List Note}
    (hperm : (ofSource source).notes.Perm found)
    (hincreasing : found.Pairwise fun a b => a.line < b.line) :
    (ofSource source).notes = found :=
  hperm.eq_of_pairwise (fun _ _ _ _ hab hba => absurd hba (Nat.lt_asymm hab))
    (notes_increasing source) hincreasing

/-- Any of the lines that were skipped can be made blank.  The program and the
header lines stay the same, and so do the notes on all other lines. -/
theorem ofSource_blankRows {source : String} {numbers : Finset Nat}
    {blank : Nat → List Char}
    (hskips : ∀ number ∈ numbers, (ofSource source).Skips number)
    (hblank : ∀ number ∈ numbers, AllBlank (blank number) ∧ '\n' ∉ blank number) :
    ofSource (blankRows numbers blank source) =
      { ofSource source with
        notes := (ofSource source).notes.filter (·.line ∉ numbers) } := by
  have hfaulty := allFaulty_of_skips hskips
  have hread : readLines (blankRows numbers blank source) =
      (readLines source).filter (·.number ∉ numbers) := by
    rw [← readLines_filter_of_skips hskips, ← lines_blankRows hblank source, readLines]
  generalize blankRows numbers blank source = other at hread ⊢
  have hprogress : ((readLines other).foldl Progress.step {}).commit =
      ((readLines source).foldl Progress.step {}).commit.forget numbers := by
    rw [hread, ← hfaulty.forget_foldl_step]
    apply (Progress.forget_commit _).symm
    exact hfaulty.draft_line_not_mem (Progress.initial_accounts.foldl_step _)
  have hprogram := congrArg Progress.program hprogress
  have hheaderLines := congrArg Progress.headerLines hprogress
  have hmade := congrArg Progress.notes hprogress
  have hnotes : (ofSource other).notes =
      (ofSource source).notes.filter (·.line ∉ numbers) := by
    have hperm := (List.mergeSort_perm ((readLines source).foldl Progress.step {}).commit.notes
      fun a b => a.line ≤ b.line).filter (·.line ∉ numbers)
    apply notes_eq_of_perm _ ((notes_increasing source).filter _)
    exact (List.mergeSort_perm _ _).trans ((List.Perm.of_eq hmade).trans hperm.symm)
  exact ext hprogram hnotes hheaderLines

/-- A line that is no construct, a text in no block and a button among texts are
made blank at once, and the notes on another line and a definition stay. -/
theorem ofSource_blankRows_some :
    let source := "solta\ninicio:\n\"cedo\"\nmensagem:\n\"Oi\"\n\"Ir\" -> menu\n" ++
      "imagem: logo.png\nfluxo menu:\nfim\n\"tarde\""
    let numbers : Finset Nat := {1, 3, 6}
    let blank := fun number => if number = 3 then [' ', '\t'] else []
    (∀ number ∈ numbers, (ofSource source).Skips number) ∧
      (∀ number ∈ numbers, AllBlank (blank number) ∧ '\n' ∉ blank number) ∧
      ofSource (blankRows numbers blank source) =
        { ofSource source with
          notes := [⟨7, .unrecognized "imagem: logo.png"⟩, ⟨8, .emptyFlow "menu"⟩] } := by
  intro source numbers blank
  have hnotes : (ofSource source).notes =
      [⟨1, .unrecognized "solta"⟩, ⟨3, .looseText⟩, ⟨6, .looseButton⟩,
        ⟨7, .unrecognized "imagem: logo.png"⟩, ⟨8, .emptyFlow "menu"⟩] := by
    apply notes_eq_of_perm ((notes_ofSource_perm source).trans _) (by simp)
    decide +kernel
  have hskips : ∀ number ∈ numbers, (ofSource source).Skips number := by
    intro number hmem
    unfold Skips
    rw [hnotes]
    simp only [numbers, Finset.mem_insert, Finset.mem_singleton] at hmem
    rcases hmem with rfl | rfl | rfl
    · exact ⟨⟨1, .unrecognized "solta"⟩, by simp, rfl, trivial⟩
    · exact ⟨⟨3, .looseText⟩, by simp, rfl, trivial⟩
    · exact ⟨⟨6, .looseButton⟩, by simp, rfl, trivial⟩
  have hblank : ∀ number ∈ numbers, AllBlank (blank number) ∧ '\n' ∉ blank number := by
    decide
  refine ⟨hskips, hblank, ?_⟩
  rw [ofSource_blankRows hskips hblank, hnotes]
  rfl

end Compilation

end ChatFlow.Source
