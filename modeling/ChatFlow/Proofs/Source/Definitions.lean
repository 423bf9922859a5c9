import ChatFlow.Source.Compilation
import Mathlib.Data.List.TakeWhile

/-!
# Definitions of flows in a source

A source is read header by header: each header defines a flow and owns the
lines after it up to the next header.  What a line of a definition means
depends on the nearest opener before it.  This gives every source a meaning
that mentions neither drafts nor commits, and compiling agrees with it: under
each name stands the last definition of that name that says something.
-/

namespace ChatFlow.Source

namespace Construct

def flow? : Construct → Option String
  | .entryHeader => some entryName
  | .flowHeader name => some name
  | _ => none

def block? : Construct → Option Block
  | .messageOpener => some .message
  | .buttonOpener _ => some .buttons
  | _ => none

def text? : Construct → Option String
  | .quoted text => some text
  | _ => none

def button? : Construct → Option Button
  | .arrow label target => some ⟨label, target⟩
  | _ => none

end Construct

/-- The lines of a source that count: those before the first terminator. -/
def readLines (source : String) : List Line :=
  (lines source).takeWhile (·.construct ≠ .terminator)

/-- The block in which a line stands that comes after the given ones: that of
the nearest opener. -/
def blockAfter (before : List Line) : Block :=
  (before.reverse.findSome? (·.construct.block?)).getD .none

/-- The lines that stand in a block, each by the lines before it. -/
def linesIn (block : Block) (body : List Line) : List Line :=
  (body.zipIdx.filter fun (_, index) => blockAfter (body.take index) = block).map Prod.fst

/-- Texts below each other, without the empty ones before the first that is not. -/
def joined (texts : List String) : String :=
  "\n".intercalate (texts.dropWhile (·.isEmpty))

/-- A header with the lines it owns. -/
structure Definition where
  name : String
  line : Nat
  body : List Line

namespace Definition

/-- The quoted texts of the definition that stand in a message block. -/
def texts (definition : Definition) : List String :=
  (linesIn .message definition.body).filterMap (·.construct.text?)

def buttons (definition : Definition) : List Button :=
  (linesIn .buttons definition.body).filterMap (·.construct.button?)

def message (definition : Definition) : String :=
  joined definition.texts

def node (definition : Definition) : Node :=
  ⟨definition.name, definition.message, definition.buttons⟩

/-- Whether some text of the definition is not empty. -/
def Speaks (definition : Definition) : Prop :=
  ∃ text ∈ definition.texts, text ≠ ""

instance (definition : Definition) : Decidable definition.Speaks :=
  inferInstanceAs (Decidable (∃ text ∈ definition.texts, text ≠ ""))

end Definition

def untilHeader (lines : List Line) : List Line :=
  lines.takeWhile (·.construct.flow? = none)

/-- All definitions in order: each header owns the lines up to the next one. -/
def definitions : List Line → List Definition
  | [] => []
  | line :: rest =>
      match line.construct.flow? with
      | some name => ⟨name, line.number, untilHeader rest⟩ :: definitions rest
      | none => definitions rest

/-- The last definition of a flow that speaks. -/
def effective? (name : String) (found : List Definition) : Option Definition :=
  (found.filter fun definition => definition.name = name ∧ definition.Speaks).getLast?

/-! ## Blocks and messages, one line at a time -/

theorem blockAfter_append (before : List Line) (line : Line) :
    blockAfter (before ++ [line]) =
      (line.construct.block?).getD (blockAfter before) := by
  cases hblock : line.construct.block? <;> simp [blockAfter, hblock]

theorem linesIn_append (block : Block) (body : List Line) (line : Line) :
    linesIn block (body ++ [line]) =
      linesIn block body ++ if blockAfter body = block then [line] else [] := by
  have hold : ∀ entry ∈ body.zipIdx,
      decide (blockAfter ((body ++ [line]).take entry.2) = block) =
        decide (blockAfter (body.take entry.2) = block) := by
    intro entry hmem
    have hindex : entry.2 ≤ body.length := by
      have hlt := List.snd_lt_of_mem_zipIdx hmem
      omega
    rw [List.take_append_of_le_length hindex]
  unfold linesIn
  rw [List.zipIdx_append, List.filter_append, List.map_append,
    List.filter_congr hold]
  congr 1
  by_cases hblock : blockAfter body = block <;> simp [hblock]

/-- Lines that open no block stand in the block that is open before them. -/
theorem linesIn_append_of_plain {more : List Line}
    (hplain : ∀ line ∈ more, line.construct.block? = none) (body : List Line) (block : Block) :
    blockAfter (body ++ more) = blockAfter body ∧
      linesIn block (body ++ more) =
        linesIn block body ++ if blockAfter body = block then more else [] := by
  induction more generalizing body with
  | nil => simp
  | cons line more ih =>
      have hline : line.construct.block? = none := hplain line List.mem_cons_self
      have hmore := ih (fun other hmem => hplain other (List.mem_cons_of_mem _ hmem))
        (body ++ [line])
      have hblock : blockAfter (body ++ [line]) = blockAfter body := by
        rw [blockAfter_append, hline, Option.getD_none]
      rw [List.append_cons, hmore.1, hmore.2, hblock, linesIn_append]
      refine ⟨rfl, ?_⟩
      split <;> simp

theorem linesIn_append_block {opener : Line} {opened : Block}
    (hopener : opener.construct.block? = some opened) {plain : List Line}
    (hplain : ∀ line ∈ plain, line.construct.block? = none) (body : List Line) :
    blockAfter (body ++ opener :: plain) = opened ∧
      ∀ block, linesIn block (body ++ opener :: plain) =
        linesIn block body ++ (if blockAfter body = block then [opener] else []) ++
          if opened = block then plain else [] := by
  have hopened : blockAfter (body ++ [opener]) = opened := by
    rw [blockAfter_append, hopener, Option.getD_some]
  rw [List.append_cons]
  refine ⟨?_, fun block => ?_⟩
  · rw [(linesIn_append_of_plain hplain _ opened).1, hopened]
  · rw [(linesIn_append_of_plain hplain _ block).2, hopened, linesIn_append]

theorem mem_of_mem_linesIn {block : Block} {body : List Line} {line : Line}
    (hmem : line ∈ linesIn block body) : line ∈ body := by
  obtain ⟨⟨_, index⟩, hentry, rfl⟩ := List.mem_map.mp hmem
  exact List.fst_mem_of_mem_zipIdx (List.mem_filter.mp hentry).1

theorem dropWhile_isEmpty_cases (texts : List String) :
    (texts.dropWhile (·.isEmpty) = [] ∧ ∀ text ∈ texts, text = "") ∨
      ∃ first rest, texts.dropWhile (·.isEmpty) = first :: rest ∧
        first ≠ "" ∧ first ∈ texts := by
  cases hrest : texts.dropWhile (·.isEmpty) with
  | nil =>
      have hall := List.dropWhile_eq_nil_iff.mp hrest
      exact Or.inl ⟨rfl, fun text hmem => String.isEmpty_iff.mp (hall text hmem)⟩
  | cons first rest =>
      have hhead := List.head_dropWhile_not (·.isEmpty) (l := texts) (by simp [hrest])
      have hfirst : first ≠ "" := by simpa [hrest, String.isEmpty_iff] using hhead
      have hmem : first ∈ texts := by
        apply (List.dropWhile_sublist (·.isEmpty)).mem
        simp [hrest]
      exact Or.inr ⟨first, rest, rfl, hfirst, hmem⟩

theorem intercalate_ne_empty {first : String} (hfirst : first ≠ "") (rest : List String) :
    "\n".intercalate (first :: rest) ≠ "" := by
  intro hempty
  cases rest with
  | nil => exact hfirst (String.intercalate_singleton.symm.trans hempty)
  | cons second rest =>
      have hchars := congrArg String.toList hempty
      simp [String.intercalate_cons_cons] at hchars

theorem joined_eq_empty_iff (texts : List String) :
    joined texts = "" ↔ ∀ text ∈ texts, text = "" := by
  unfold joined
  rcases dropWhile_isEmpty_cases texts with ⟨hnil, hall⟩ | ⟨first, rest, hcons, hfirst, hmem⟩
  · simpa [hnil] using hall
  · rw [hcons]
    constructor
    · intro hempty
      exact absurd hempty (intercalate_ne_empty hfirst rest)
    · intro hall
      exact absurd (hall first hmem) hfirst

theorem joined_append (texts : List String) (text : String) :
    joined (texts ++ [text]) =
      if (joined texts).isEmpty then text else joined texts ++ "\n" ++ text := by
  unfold joined
  rw [List.dropWhile_append]
  rcases dropWhile_isEmpty_cases texts with ⟨hnil, -⟩ | ⟨first, rest, hcons, hfirst, -⟩
  · by_cases htext : text.isEmpty
    · simp [hnil, String.isEmpty_iff.mp htext]
    · simp [hnil, htext]
  · have hjoined := intercalate_ne_empty hfirst rest
    rw [hcons, if_neg (by simp), if_neg (by simpa [String.isEmpty_iff] using hjoined),
      String.intercalate_append_of_ne_nil (by simp) (by simp)]
    simp

/-! ## Definitions, one line at a time -/

namespace Definition

def own (definition : Definition) (line : Line) : Definition :=
  { definition with body := definition.body ++ [line] }

theorem texts_own (definition : Definition) (line : Line) :
    (definition.own line).texts =
      definition.texts ++
        if blockAfter definition.body = .message then line.construct.text?.toList else [] := by
  unfold texts own
  rw [linesIn_append]
  split <;> cases htext : line.construct.text? <;> simp [htext]

theorem buttons_own (definition : Definition) (line : Line) :
    (definition.own line).buttons =
      definition.buttons ++
        if blockAfter definition.body = .buttons then line.construct.button?.toList else [] := by
  unfold buttons own
  rw [linesIn_append]
  split <;> cases hbutton : line.construct.button? <;> simp [hbutton]

theorem message_own (definition : Definition) (line : Line) :
    (definition.own line).message =
      match line.construct.text? with
      | some text =>
          if blockAfter definition.body = .message then
            if definition.message.isEmpty then text else definition.message ++ "\n" ++ text
          else definition.message
      | none => definition.message := by
  unfold message
  rw [texts_own]
  cases line.construct.text? with
  | none => simp
  | some text =>
      split
      · exact joined_append definition.texts text
      · simp

theorem speaks_iff_message_ne (definition : Definition) :
    definition.Speaks ↔ definition.message ≠ "" := by
  unfold Speaks message
  rw [ne_eq, joined_eq_empty_iff]
  simp

/-- The draft in which the definition is collected. -/
def draft (definition : Definition) : Draft where
  name := definition.name
  line := definition.line
  block := blockAfter definition.body
  message := definition.message
  buttons := definition.buttons

theorem draft_own (definition : Definition) (line : Line) :
    (definition.own line).draft =
      { definition.draft with
        block := (line.construct.block?).getD definition.draft.block
        message :=
          match line.construct.text? with
          | some text =>
              if definition.draft.block = .message then (definition.draft.addText text).message
              else definition.draft.message
          | none => definition.draft.message
        buttons :=
          definition.draft.buttons ++
            if definition.draft.block = .buttons then line.construct.button?.toList else [] } := by
  have hblock := blockAfter_append definition.body line
  have hmessage := definition.message_own line
  have hbuttons := definition.buttons_own line
  unfold draft
  rw [hmessage, hbuttons]
  congr 1

end Definition

theorem definitions_eq_nil_iff (read : List Line) :
    definitions read = [] ↔ ∀ line ∈ read, line.construct.flow? = none := by
  induction read with
  | nil => simp [definitions]
  | cons head rest ih =>
      rw [definitions]
      cases hhead : head.construct.flow? with
      | none => simpa [hhead] using ih
      | some name => simp [hhead]

theorem untilHeader_eq_self_iff (read : List Line) :
    untilHeader read = read ↔ definitions read = [] := by
  rw [definitions_eq_nil_iff, untilHeader, List.takeWhile_eq_self_iff]
  simp

theorem untilHeader_append (read : List Line) (line : Line) :
    untilHeader (read ++ [line]) =
      if definitions read = [] then
        read ++ if line.construct.flow? = none then [line] else []
      else untilHeader read := by
  by_cases hnil : definitions read = []
  · have hself := (untilHeader_eq_self_iff read).mpr hnil
    unfold untilHeader at hself ⊢
    rw [List.takeWhile_append, hself, if_pos rfl, if_pos hnil]
    by_cases hflow : line.construct.flow? = none <;> simp [hflow]
  · have hshort : (untilHeader read).length ≠ read.length := by
      intro hlength
      exact hnil ((untilHeader_eq_self_iff read).mp
        ((List.takeWhile_prefix _).eq_of_length hlength))
    rw [if_neg hnil]
    exact List.takeWhile_append.trans (if_neg hshort)

theorem definitions_append_header {line : Line} {name : String}
    (hflow : line.construct.flow? = some name) (read : List Line) :
    definitions (read ++ [line]) = definitions read ++ [⟨name, line.number, []⟩] := by
  induction read with
  | nil => simp [definitions, hflow, untilHeader]
  | cons head rest ih =>
      rw [List.cons_append, definitions, definitions, ih, untilHeader_append]
      cases head.construct.flow? with
      | none => rfl
      | some other =>
          by_cases hnil : definitions rest = []
          · simp [hnil, hflow, (untilHeader_eq_self_iff rest).mpr hnil]
          · simp [hnil]

/-- A line that is no header goes to the definition that is open, if any. -/
theorem definitions_append_line {line : Line} (hflow : line.construct.flow? = none)
    (read : List Line) :
    (definitions read = [] ∧ definitions (read ++ [line]) = []) ∨
      ∃ before last, definitions read = before ++ [last] ∧
        definitions (read ++ [line]) = before ++ [last.own line] := by
  induction read with
  | nil => exact Or.inl ⟨rfl, by simp [definitions, hflow]⟩
  | cons head rest ih =>
      rw [List.cons_append, definitions, definitions, untilHeader_append]
      cases head.construct.flow? with
      | none => exact ih
      | some name =>
          right
          rcases ih with ⟨hold, hnew⟩ | ⟨before, last, hold, hnew⟩
          · refine ⟨[], ⟨name, head.number, untilHeader rest⟩, ?_, ?_⟩
            · simp [hold]
            · simp [hold, hnew, hflow, Definition.own, (untilHeader_eq_self_iff rest).mpr hold]
          · refine ⟨⟨name, head.number, untilHeader rest⟩ :: before, last, ?_, ?_⟩
            · simp [hold]
            · simp [hold, hnew]

theorem exists_header_of_mem_definitions {read : List Line} {definition : Definition}
    (hmem : definition ∈ definitions read) :
    ∃ header ∈ read, header.construct.flow? = some definition.name ∧
      header.number = definition.line ∧ ∀ line ∈ definition.body, line ∈ read := by
  induction read with
  | nil => simp [definitions] at hmem
  | cons head rest ih =>
      have hlater (hrest : definition ∈ definitions rest) :
          ∃ header ∈ head :: rest, header.construct.flow? = some definition.name ∧
            header.number = definition.line ∧
            ∀ line ∈ definition.body, line ∈ head :: rest := by
        obtain ⟨header, hheader, hflow, hnumber, hbody⟩ := ih hrest
        exact ⟨header, List.mem_cons_of_mem _ hheader, hflow, hnumber,
          fun line hline => List.mem_cons_of_mem _ (hbody line hline)⟩
      rw [definitions] at hmem
      cases hflow : head.construct.flow? with
      | none =>
          rw [hflow] at hmem
          exact hlater hmem
      | some name =>
          rw [hflow] at hmem
          rcases List.mem_cons.mp hmem with rfl | hrest
          · refine ⟨head, List.mem_cons_self, hflow, rfl, fun line hline => ?_⟩
            exact List.mem_cons_of_mem _ ((List.takeWhile_sublist _).mem hline)
          · exact hlater hrest

theorem definitions_append_of_plain {more : List Line}
    (hplain : ∀ line ∈ more, line.construct.flow? = none) (rest : List Line) :
    definitions (more ++ rest) = definitions rest ∧
      untilHeader (more ++ rest) = more ++ untilHeader rest := by
  constructor
  · induction more with
    | nil => rfl
    | cons line more ih =>
        rw [List.cons_append, definitions, hplain line List.mem_cons_self]
        exact ih fun other hmem => hplain other (List.mem_cons_of_mem _ hmem)
  · exact List.takeWhile_append_of_pos (by simpa using hplain)

/-! ## Effective definitions -/

theorem effective?_append (name : String) (before : List Definition) (last : Definition) :
    effective? name (before ++ [last]) =
      if last.name = name ∧ last.Speaks then some last else effective? name before := by
  unfold effective?
  rw [List.filter_append, List.getLast?_append]
  by_cases hlast : last.name = name ∧ last.Speaks <;> simp [hlast]

theorem effective?_isSome_iff (name : String) (found : List Definition) :
    (effective? name found).isSome ↔
      ∃ definition ∈ found, definition.name = name ∧ definition.Speaks := by
  unfold effective?
  rw [List.getLast?_isSome]
  simp [List.filter_eq_nil_iff]

theorem name_of_effective? {name : String} {found : List Definition}
    {definition : Definition} (h : effective? name found = some definition) :
    definition ∈ found ∧ definition.name = name ∧ definition.Speaks := by
  have hmem := List.mem_of_getLast? h
  simpa using hmem

/-! ## Compiling keeps to the definitions -/

/-- Progress accounts for the lines read so far: the open draft collects the
last definition, and those before it are filed. -/
structure Progress.Accounts (progress : Progress) (read : List Line) : Prop where
  draft : progress.draft? = (definitions read).getLast?.map Definition.draft
  program : ∀ name, progress.program.get? name =
    (effective? name (definitions read).dropLast).map Definition.node
  headerLines : ∀ name, progress.headerLines.get? name =
    (effective? name (definitions read).dropLast).map Definition.line

theorem Progress.initial_accounts : Progress.Accounts {} [] where
  draft := rfl
  program _ := rfl
  headerLines _ := rfl

@[simp] theorem Progress.program_note (progress : Progress) (line : Nat) (cause : Cause) :
    (progress.note line cause).program = progress.program := rfl

@[simp] theorem Progress.headerLines_note (progress : Progress) (line : Nat) (cause : Cause) :
    (progress.note line cause).headerLines = progress.headerLines := rfl

@[simp] theorem Progress.draft?_note (progress : Progress) (line : Nat) (cause : Cause) :
    (progress.note line cause).draft? = progress.draft? := rfl

theorem Progress.get?_commit {progress : Progress} {draft : Draft}
    (hdraft : progress.draft? = some draft) (name : String) :
    progress.commit.program.get? name =
        (if draft.name = name ∧ draft.message ≠ "" then some draft.node
          else progress.program.get? name) ∧
      progress.commit.headerLines.get? name =
        (if draft.name = name ∧ draft.message ≠ "" then some draft.line
          else progress.headerLines.get? name) := by
  unfold commit
  rw [hdraft]
  by_cases hmessage : draft.message = ""
  · simp [hmessage]
  · have hnode : draft.node.name = draft.name := rfl
    simp only [String.isEmpty_iff, hmessage, if_false, ne_eq, not_false_eq_true, and_true]
    split <;> simp [Program.get?_insert, NameMap.get?_insert, hnode, eq_comm]

theorem Progress.step_header {line : Line} {name : String}
    (hflow : line.construct.flow? = some name) (progress : Progress) :
    progress.step line = progress.openFlow name line.number := by
  unfold step
  cases hconstruct : line.construct <;> simp_all [Construct.flow?]

theorem Progress.files_step_line {line : Line} (hflow : line.construct.flow? = none)
    (progress : Progress) :
    (progress.step line).program = progress.program ∧
      (progress.step line).headerLines = progress.headerLines := by
  have hwithin (block : Block) (change : Draft → Draft) (number : Nat) (cause : Cause) :
      (progress.within block change number cause).program = progress.program ∧
        (progress.within block change number cause).headerLines = progress.headerLines := by
    unfold within
    split
    · split <;> exact ⟨rfl, rfl⟩
    · exact ⟨rfl, rfl⟩
  unfold step
  cases hconstruct : line.construct with
  | entryHeader => simp [hconstruct, Construct.flow?] at hflow
  | flowHeader name => simp [hconstruct, Construct.flow?] at hflow
  | messageOpener => exact ⟨rfl, rfl⟩
  | buttonOpener index => exact ⟨rfl, rfl⟩
  | quoted text => exact hwithin _ _ _ _
  | arrow label target => exact hwithin _ _ _ _
  | terminator => exact ⟨rfl, rfl⟩
  | unrecognized text => exact ⟨rfl, rfl⟩

theorem Progress.draft?_step_line_of_none {line : Line}
    (hflow : line.construct.flow? = none) {progress : Progress}
    (hdraft : progress.draft? = none) :
    (progress.step line).draft? = none := by
  unfold step
  cases hconstruct : line.construct with
  | entryHeader => simp [hconstruct, Construct.flow?] at hflow
  | flowHeader name => simp [hconstruct, Construct.flow?] at hflow
  | messageOpener => simp [openBlock, hdraft]
  | buttonOpener index => simp [openBlock, hdraft]
  | quoted text => simp [within, hdraft]
  | arrow label target => simp [within, hdraft]
  | terminator => exact hdraft
  | unrecognized text => exact hdraft

/-- A line that is no header changes the open draft to that of the definition
which owns the line, too. -/
theorem Progress.draft?_step_line {line : Line} (hflow : line.construct.flow? = none)
    {progress : Progress} {definition : Definition}
    (hdraft : progress.draft? = some definition.draft) :
    (progress.step line).draft? = some (definition.own line).draft := by
  have hown := definition.draft_own line
  unfold step
  cases hconstruct : line.construct with
  | entryHeader => simp [hconstruct, Construct.flow?] at hflow
  | flowHeader name => simp [hconstruct, Construct.flow?] at hflow
  | messageOpener =>
      rw [hown, hconstruct]
      simp [openBlock, hdraft, Construct.block?, Construct.text?, Construct.button?]
  | buttonOpener index =>
      rw [hown, hconstruct]
      simp [openBlock, hdraft, Construct.block?, Construct.text?, Construct.button?]
  | quoted text =>
      rw [hown, hconstruct]
      by_cases hblock : definition.draft.block = .message
      · simp [within, hdraft, hblock, Construct.block?, Construct.text?, Draft.addText]
      · simp [within, hdraft, hblock, Construct.block?, Construct.text?,
          Construct.button?]
  | arrow label target =>
      rw [hown, hconstruct]
      by_cases hblock : definition.draft.block = .buttons
      · simp [within, hdraft, hblock, Construct.block?, Construct.text?,
          Construct.button?, Draft.addButton]
      · simp [within, hdraft, hblock, Construct.block?, Construct.text?]
  | terminator =>
      rw [hown, hconstruct]
      simp [hdraft, Construct.block?, Construct.text?, Construct.button?]
  | unrecognized text =>
      rw [hown, hconstruct]
      simp [hdraft, Construct.block?, Construct.text?, Construct.button?]

theorem Progress.draft?_openFlow (progress : Progress) (name : String) (line : Nat) :
    (progress.openFlow name line).draft? =
      some (Definition.mk name line []).draft := rfl

namespace Progress.Accounts

variable {progress : Progress} {read : List Line}

/-- Once the open draft is committed, all definitions are filed. -/
theorem get?_commit (haccounts : progress.Accounts read) (name : String) :
    progress.commit.program.get? name =
        (effective? name (definitions read)).map Definition.node ∧
      progress.commit.headerLines.get? name =
        (effective? name (definitions read)).map Definition.line := by
  obtain ⟨hdraft, hprogram, hheaderLines⟩ := haccounts
  rcases List.eq_nil_or_concat (definitions read) with hnil | ⟨before, last, hlast⟩
  · simp only [hnil, List.getLast?_nil, Option.map_none, List.dropLast_nil] at *
    have hcommit : progress.commit = progress := by
      unfold commit
      rw [hdraft]
    rw [hcommit]
    exact ⟨hprogram name, hheaderLines name⟩
  · rw [List.concat_eq_append] at hlast
    simp only [hlast, List.getLast?_append, List.getLast?_singleton, Option.some_or,
      Option.map_some, List.dropLast_concat] at hdraft hprogram hheaderLines
    have hfiles : last.draft.name = name ∧ last.draft.message ≠ "" ↔
        last.name = name ∧ last.Speaks := by
      rw [last.speaks_iff_message_ne]
      rfl
    obtain ⟨hprogramNow, hheaderLinesNow⟩ := Progress.get?_commit hdraft name
    rw [hprogramNow, hheaderLinesNow, hlast, effective?_append, hprogram, hheaderLines]
    simp only [hfiles]
    split <;> exact ⟨rfl, rfl⟩

theorem step (haccounts : progress.Accounts read) (line : Line) :
    (progress.step line).Accounts (read ++ [line]) := by
  cases hflow : line.construct.flow? with
  | some name =>
      rw [Progress.step_header hflow]
      have hfiled := haccounts.get?_commit
      have hdefinitions := definitions_append_header hflow read
      constructor
      · rw [hdefinitions, Progress.draft?_openFlow]
        simp
      · rw [hdefinitions, List.dropLast_concat]
        exact fun name => (hfiled name).1
      · rw [hdefinitions, List.dropLast_concat]
        exact fun name => (hfiled name).2
  | none =>
      obtain ⟨hprogram, hheaderLines⟩ := Progress.files_step_line hflow progress
      obtain ⟨hdraft, hfiled, hlines⟩ := haccounts
      rcases definitions_append_line hflow read with
        ⟨hold, hnew⟩ | ⟨before, last, hold, hnew⟩
      · rw [hold] at hdraft hfiled hlines
        constructor
        · rw [hnew]
          exact Progress.draft?_step_line_of_none hflow hdraft
        · rwa [hprogram, hnew]
        · rwa [hheaderLines, hnew]
      · simp only [hold, List.getLast?_append, List.getLast?_singleton, Option.some_or,
          Option.map_some, List.dropLast_concat] at hdraft hfiled hlines
        constructor
        · rw [hnew, Progress.draft?_step_line hflow hdraft]
          simp
        · rwa [hprogram, hnew, List.dropLast_concat]
        · rwa [hheaderLines, hnew, List.dropLast_concat]

theorem foldl_step (haccounts : progress.Accounts read) (rest : List Line) :
    (rest.foldl Progress.step progress).Accounts (read ++ rest) := by
  induction rest generalizing progress read with
  | nil => simpa using haccounts
  | cons line rest ih =>
      have hrest := ih (haccounts.step line)
      rwa [List.append_assoc] at hrest

end Progress.Accounts

namespace Compilation

theorem get?_ofSource (source name : String) :
    (ofSource source).program.get? name =
        (effective? name (definitions (readLines source))).map Definition.node ∧
      (ofSource source).headerLines.get? name =
        (effective? name (definitions (readLines source))).map Definition.line :=
  (Progress.initial_accounts.foldl_step (readLines source)).get?_commit name

theorem contains_ofSource (source name : String) :
    (ofSource source).program.contains name =
        (effective? name (definitions (readLines source))).isSome ∧
      (ofSource source).headerLines.contains name =
        (effective? name (definitions (readLines source))).isSome := by
  obtain ⟨hprogram, hheaderLines⟩ := get?_ofSource source name
  rw [Program.contains_eq_isSome, NameMap.contains, hprogram, hheaderLines,
    Option.isSome_map, Option.isSome_map]
  exact ⟨rfl, rfl⟩

/-- A flow is in the program if and only if some definition of it speaks.  The
last one that does gives its node and its header line, and flows without such
a definition have neither. -/
theorem ofSource_keeps_last_speaking (source : String) :
    (∀ name, (ofSource source).program.contains name = true ↔
        ∃ definition ∈ definitions (readLines source),
          definition.name = name ∧ definition.Speaks) ∧
      (∀ name, (ofSource source).program.get? name =
        (effective? name (definitions (readLines source))).map Definition.node) ∧
      (∀ name, (ofSource source).headerLines.get? name =
        (effective? name (definitions (readLines source))).map Definition.line) ∧
      (ofSource source).headerLines.names = (ofSource source).program.names := by
  refine ⟨fun name => ?_, fun name => (get?_ofSource source name).1,
    fun name => (get?_ofSource source name).2, ?_⟩
  · rw [(contains_ofSource source name).1]
    exact effective?_isSome_iff name _
  · apply NameMap.names_eq_of_contains_eq
    intro name
    obtain ⟨hprogram, hheaderLines⟩ := contains_ofSource source name
    exact hheaderLines.trans hprogram.symm

end Compilation

end ChatFlow.Source
