import ChatFlow.Proofs.Source.Definitions
import Mathlib.Data.List.Basic
import Mathlib.Data.List.Induction
import Mathlib.Data.List.Perm.Subperm

/-!
# What compiling notes

A line can be at fault where it stands, and so can a definition after the ones
before it: it says nothing, or it takes the place of one that said something.
Compiling notes these faults and nothing else.  The notes on lines are made as
the lines are read and those on definitions when they end, so listing them by
line is what brings both kinds together.
-/

namespace ChatFlow.Source

/-- The block in which a line stands that comes after the given ones: that of
the nearest opener since the last header.  Nothing stands in a block before the
first header. -/
def standing (before : List Line) : Block :=
  ((definitions before).getLast?.map fun current => blockAfter current.body).getD .none

/-- Why a construct is of no use in a block, if it is not. -/
def Construct.fault? (block : Block) : Construct → Option Cause
  | .unrecognized text => some (.unrecognized text)
  | .quoted _ => if block = .message then none else some .looseText
  | .arrow .. => if block = .buttons then none else some .looseButton
  | _ => none

/-- What is wrong with a definition after earlier ones, if anything is. -/
def Definition.fault? (earlier : List Definition) (definition : Definition) : Option Cause :=
  if ¬ definition.Speaks then some (.emptyFlow definition.name)
  else if ∃ other ∈ earlier, other.name = definition.name ∧ other.Speaks then
    some (.redefinition definition.name)
  else none

/-! ## Judging items by what comes before them -/

section Judged

variable {α β : Type} {judge : List α → α → Option β}

/-- What the items of a list give rise to, each by the items before it. -/
def judged (judge : List α → α → Option β) (items : List α) : List β :=
  items.zipIdx.filterMap fun (item, index) => judge (items.take index) item

theorem judged_append (judge : List α → α → Option β) (items : List α) (item : α) :
    judged judge (items ++ [item]) = judged judge items ++ (judge items item).toList := by
  have hold : ∀ entry ∈ items.zipIdx,
      judge ((items ++ [item]).take entry.2) entry.1 =
        judge (items.take entry.2) entry.1 := by
    intro entry hmem
    have hindex := List.snd_lt_of_mem_zipIdx hmem
    rw [List.take_append_of_le_length (by omega)]
  unfold judged
  rw [List.zipIdx_append, List.filterMap_append, List.filterMap_congr hold]
  cases hitem : judge items item <;> simp [hitem]

theorem mem_judged_iff {items : List α} {result : β} :
    result ∈ judged judge items ↔
      ∃ before item after, items = before ++ item :: after ∧ judge before item = some result := by
  unfold judged
  rw [List.mem_filterMap]
  constructor
  · rintro ⟨⟨item, index⟩, hmem, hjudge⟩
    have hitem : items[index]? = some item := List.mem_zipIdx_iff_getElem?.mp hmem
    obtain ⟨hindex, rfl⟩ := List.getElem?_eq_some_iff.mp hitem
    refine ⟨items.take index, items[index], items.drop (index + 1), ?_, hjudge⟩
    rw [← List.drop_eq_getElem_cons hindex, List.take_append_drop]
  · rintro ⟨before, item, after, rfl, hjudge⟩
    refine ⟨(item, before.length), ?_, ?_⟩
    · apply List.mem_zipIdx_iff_getElem?.mpr
      simp
    · simpa using hjudge

/-- Results that keep a key of their items have the keys of some of the items,
in their order. -/
theorem map_judged_sublist {γ : Type} {keyOf : β → γ} {key : α → γ} {keep : α → Bool}
    (hkeep : ∀ before item result, judge before item = some result →
      keep item = true ∧ keyOf result = key item) (items : List α) :
    ((judged judge items).map keyOf).Sublist ((items.filter keep).map key) := by
  induction items using List.reverseRecOn with
  | nil => exact List.Sublist.slnil
  | append_singleton items item ih =>
      rw [judged_append, List.filter_append, List.map_append, List.map_append]
      apply ih.append
      cases hitem : judge items item with
      | none => exact List.nil_sublist _
      | some result =>
          obtain ⟨hkept, hkey⟩ := hkeep items item result hitem
          simp [hkept, hkey]

end Judged

/-- The notes on lines that are at fault where they stand. -/
def lineNotes (read : List Line) : List Note :=
  judged (fun before line =>
    (line.construct.fault? (standing before)).map (Note.mk line.number)) read

/-- The notes on definitions that say nothing or replace others. -/
def headerNotes (found : List Definition) : List Note :=
  judged (fun earlier definition =>
    (definition.fault? earlier).map (Note.mk definition.line)) found

/-! ## Compiling makes these notes -/

/-- The notes made so far are those on the lines read and on the definitions
that have ended. -/
def Progress.Notes (progress : Progress) (read : List Line) : Prop :=
  progress.notes.Perm (lineNotes read ++ headerNotes (definitions read).dropLast)

theorem Progress.initial_notes : Progress.Notes {} [] :=
  List.Perm.refl _

theorem Progress.notes_commit {progress : Progress} {definition : Definition}
    {earlier : List Definition} (hdraft : progress.draft? = some definition.draft)
    (hcontains : progress.program.contains definition.name =
      (effective? definition.name earlier).isSome) :
    progress.commit.notes =
      progress.notes ++ ((definition.fault? earlier).map (Note.mk definition.line)).toList := by
  have hmessage : definition.draft.message.isEmpty = true ↔ ¬ definition.Speaks := by
    rw [definition.speaks_iff_message_ne, not_not]
    exact String.isEmpty_iff
  unfold commit Definition.fault?
  rw [hdraft]
  dsimp only
  by_cases hspeaks : definition.Speaks
  · have hreplaces : progress.program.contains definition.draft.name = true ↔
        ∃ other ∈ earlier, other.name = definition.name ∧ other.Speaks := by
      rw [← effective?_isSome_iff, ← hcontains]
      rfl
    rw [if_neg (hmessage.not.mpr (not_not.mpr hspeaks)), if_neg (not_not.mpr hspeaks)]
    simp only [hreplaces]
    split <;> simp [note, Definition.draft]
  · rw [if_pos (hmessage.mpr hspeaks), if_pos hspeaks]
    rfl

theorem Progress.notes_step_line {line : Line} (hflow : line.construct.flow? = none)
    {progress : Progress} {read : List Line}
    (hdraft : progress.draft? = (definitions read).getLast?.map Definition.draft) :
    (progress.step line).notes =
      progress.notes ++
        ((line.construct.fault? (standing read)).map (Note.mk line.number)).toList := by
  have hwithin (block : Block) (change : Draft → Draft) (cause : Cause)
      (hblock : block ≠ .none) :
      (progress.within block change line.number cause).notes =
        progress.notes ++
          (if standing read = block then none else some (Note.mk line.number cause)).toList := by
    unfold within standing
    rw [hdraft]
    cases (definitions read).getLast? with
    | none => simp [note, Ne.symm hblock]
    | some current =>
        by_cases hopen : blockAfter current.body = block
        · simp [Definition.draft, hopen]
        · simp [Definition.draft, hopen, note]
  unfold step
  cases hconstruct : line.construct with
  | entryHeader => simp [hconstruct, Construct.flow?] at hflow
  | flowHeader name => simp [hconstruct, Construct.flow?] at hflow
  | messageOpener => simp [openBlock, Construct.fault?]
  | buttonOpener index => simp [openBlock, Construct.fault?]
  | quoted text =>
      rw [hwithin _ _ _ (by simp), Construct.fault?, apply_ite (Option.map _)]
      rfl
  | arrow label target =>
      rw [hwithin _ _ _ (by simp), Construct.fault?, apply_ite (Option.map _)]
      rfl
  | terminator => simp [Construct.fault?]
  | unrecognized text => simp [note, Construct.fault?]

namespace Progress.Notes

variable {progress : Progress} {read : List Line}

/-- Once the open draft is committed, the notes are those on all definitions. -/
theorem commit (hnotes : progress.Notes read) (haccounts : progress.Accounts read) :
    progress.commit.notes.Perm (lineNotes read ++ headerNotes (definitions read)) := by
  have hdraft := haccounts.draft
  have hprogram := haccounts.program
  unfold Progress.Notes at hnotes
  rcases List.eq_nil_or_concat (definitions read) with hnil | ⟨earlier, last, hlast⟩
  · rw [hnil] at hdraft hnotes ⊢
    have hcommit : progress.commit = progress := by
      unfold Progress.commit
      rw [hdraft]
      rfl
    rwa [hcommit]
  · rw [List.concat_eq_append] at hlast
    simp only [hlast, List.getLast?_append, List.getLast?_singleton, Option.some_or,
      Option.map_some, List.dropLast_concat] at hdraft hprogram hnotes
    have hcontains : progress.program.contains last.name =
        (effective? last.name earlier).isSome := by
      rw [Program.contains_eq_isSome, hprogram, Option.isSome_map]
    rw [Progress.notes_commit hdraft hcontains, hlast, headerNotes, judged_append,
      ← List.append_assoc]
    exact hnotes.append_right _

theorem step (hnotes : progress.Notes read) (haccounts : progress.Accounts read) (line : Line) :
    (progress.step line).Notes (read ++ [line]) := by
  unfold Progress.Notes lineNotes
  rw [judged_append]
  cases hflow : line.construct.flow? with
  | some name =>
      have hfault : line.construct.fault? (standing read) = none := by
        cases hconstruct : line.construct <;> simp_all [Construct.flow?, Construct.fault?]
      rw [Progress.step_header hflow, definitions_append_header hflow, List.dropLast_concat,
        hfault]
      simpa [lineNotes, Progress.openFlow] using hnotes.commit haccounts
  | none =>
      rw [Progress.notes_step_line hflow haccounts.draft]
      have hdropLast : (definitions (read ++ [line])).dropLast = (definitions read).dropLast := by
        rcases definitions_append_line hflow read with
          ⟨hold, hnew⟩ | ⟨earlier, last, hold, hnew⟩
        · rw [hold, hnew]
        · rw [hold, hnew, List.dropLast_concat, List.dropLast_concat]
      rw [hdropLast]
      -- The note on the line is made after those on earlier definitions.
      refine (List.Perm.append_right _ hnotes).trans ?_
      rw [List.append_assoc, List.append_assoc]
      exact List.Perm.append_left _ List.perm_append_comm

theorem foldl_step (hnotes : progress.Notes read) (haccounts : progress.Accounts read)
    (rest : List Line) : (rest.foldl Progress.step progress).Notes (read ++ rest) := by
  induction rest generalizing progress read with
  | nil => simpa using hnotes
  | cons line rest ih =>
      have hrest := ih (hnotes.step haccounts line) (haccounts.step line)
      rwa [List.append_assoc] at hrest

end Progress.Notes

/-! ## Every note has a line of its own -/

theorem Line.number_of_ofText? {number : Nat} {raw : List Char} {line : Line}
    (hline : Line.ofText? number raw = some line) : line.number = number := by
  obtain ⟨-, hread⟩ := Option.ite_none_left_eq_some.mp hline
  rw [← Option.some.inj hread]

theorem lines_increasing (source : String) :
    (lines source).Pairwise fun a b => a.number < b.number := by
  have hnumbers : ((Text.lines source.toList).zipIdx 1).Pairwise fun a b => a.2 < b.2 := by
    apply List.pairwise_map.mp
    rw [List.zipIdx_map_snd]
    exact List.pairwise_lt_range'
  apply hnumbers.filterMap
  intro a b hlt first hfirst second hsecond
  rwa [Line.number_of_ofText? hfirst, Line.number_of_ofText? hsecond]

theorem map_line_definitions (read : List Line) :
    (definitions read).map (·.line) =
      (read.filter (·.construct.flow?.isSome)).map (·.number) := by
  induction read with
  | nil => rfl
  | cons head rest ih =>
      rw [definitions]
      cases hflow : head.construct.flow? with
      | none => simpa [hflow] using ih
      | some name => simpa [hflow] using ih

/-- Notes on lines stand at lines that are no headers, and notes on definitions
at their headers. -/
theorem map_line_notes_subperm (read : List Line) :
    ((lineNotes read ++ headerNotes (definitions read)).map (·.line)).Subperm
      (read.map (·.number)) := by
  have hlines : ((lineNotes read).map (·.line)).Sublist
      ((read.filter fun line => !line.construct.flow?.isSome).map (·.number)) := by
    apply map_judged_sublist
    intro before line note hnote
    obtain ⟨cause, hfault, rfl⟩ := Option.map_eq_some_iff.mp hnote
    refine ⟨?_, rfl⟩
    cases hconstruct : line.construct <;>
      simp_all [Construct.fault?, Construct.flow?]
  have hheaders : ((headerNotes (definitions read)).map (·.line)).Sublist
      (((definitions read).filter fun _ => true).map (·.line)) := by
    apply map_judged_sublist
    intro earlier definition note hnote
    obtain ⟨cause, -, rfl⟩ := Option.map_eq_some_iff.mp hnote
    exact ⟨rfl, rfl⟩
  rw [List.filter_true, map_line_definitions] at hheaders
  have hparts := (List.filter_append_perm (·.construct.flow?.isSome) read).map (·.number)
  rw [List.map_append] at hparts ⊢
  exact (hlines.append hheaders).subperm.trans (List.perm_append_comm.trans hparts).subperm

theorem map_mk_eq_some_iff {line : Nat} {cause? : Option Cause} {note : Note} :
    cause?.map (Note.mk line) = some note ↔ line = note.line ∧ cause? = some note.cause := by
  obtain ⟨noted, cause⟩ := note
  cases cause? <;> simp [and_comm]

namespace Compilation

theorem notes_ofSource_perm (source : String) :
    (ofSource source).notes.Perm
      (lineNotes (readLines source) ++ headerNotes (definitions (readLines source))) := by
  have haccounts := Progress.initial_accounts.foldl_step (readLines source)
  have hnotes := Progress.initial_notes.foldl_step Progress.initial_accounts (readLines source)
  exact (List.mergeSort_perm _ _).trans (hnotes.commit haccounts)

theorem sorted_notes_ofSource (source : String) :
    (ofSource source).notes.Pairwise fun a b => a.line ≤ b.line := by
  have hmerged : (ofSource source).notes.Pairwise fun a b => decide (a.line ≤ b.line) = true := by
    apply List.pairwise_mergeSort
    · intro a b c hab hbc
      simp only [decide_eq_true_eq] at hab hbc ⊢
      exact Nat.le_trans hab hbc
    · intro a b
      simpa using Nat.le_total a.line b.line
  simpa using hmerged

theorem map_line_notes_ofSource_subperm (source : String) :
    ((ofSource source).notes.map (·.line)).Subperm ((readLines source).map (·.number)) := by
  have hlines : ((ofSource source).notes.map (·.line)).Perm
      ((lineNotes (readLines source) ++ headerNotes (definitions (readLines source))).map
        (·.line)) :=
    (notes_ofSource_perm source).map (·.line)
  exact hlines.subperm.trans (map_line_notes_subperm (readLines source))

/-- Each line has a number of its own, so no two notes stand at one line. -/
theorem notes_increasing (source : String) :
    (ofSource source).notes.Pairwise fun a b => a.line < b.line := by
  have hread : (readLines source).Pairwise fun a b => a.number < b.number :=
    (lines_increasing source).sublist (List.takeWhile_sublist _)
  have hnodup : ((ofSource source).notes.map (·.line)).Nodup := by
    obtain ⟨kept, hkept, hsublist⟩ := map_line_notes_ofSource_subperm source
    apply hkept.nodup_iff.mp
    apply hsublist.nodup
    exact List.pairwise_map.mpr (hread.imp Nat.ne_of_lt)
  exact (sorted_notes_ofSource source).imp₂ (fun a b hle hne => Nat.lt_of_le_of_ne hle hne)
    (List.pairwise_map.mp hnodup)

/-- The notes are listed by line, at most one for each line.  They are the
faults of the lines that count and of their definitions, and all stand before
the terminator. -/
theorem ofSource_notes_each_fault_once (source : String) :
    (ofSource source).notes.Pairwise (fun a b => a.line < b.line) ∧
      (∀ note, note ∈ (ofSource source).notes ↔
        (∃ before line after, readLines source = before ++ line :: after ∧
          line.number = note.line ∧
            line.construct.fault? (standing before) = some note.cause) ∨
        ∃ earlier definition later,
          definitions (readLines source) = earlier ++ definition :: later ∧
            definition.line = note.line ∧ definition.fault? earlier = some note.cause) ∧
      ∀ note ∈ (ofSource source).notes,
        ∀ line ∈ (lines source).dropWhile (·.construct ≠ .terminator),
          note.line < line.number := by
  have hsubperm := map_line_notes_ofSource_subperm source
  have hincreasing := lines_increasing source
  rw [← List.takeWhile_append_dropWhile (p := fun line => line.construct ≠ .terminator)
    (l := lines source), List.pairwise_append] at hincreasing
  obtain ⟨-, -, hafter⟩ := hincreasing
  refine ⟨notes_increasing source, fun note => ?_, fun note hnote line hline => ?_⟩
  · rw [(notes_ofSource_perm source).mem_iff, List.mem_append, lineNotes, headerNotes,
      mem_judged_iff, mem_judged_iff]
    simp only [map_mk_eq_some_iff]
  · have hmem := hsubperm.subset (List.mem_map_of_mem hnote)
    obtain ⟨counted, hcounted, hnumber⟩ := List.mem_map.mp hmem
    have hlt := hafter counted hcounted line hline
    omega

end Compilation

end ChatFlow.Source
