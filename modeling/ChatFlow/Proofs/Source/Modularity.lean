import ChatFlow.Proofs.Source.Concatenation
import Mathlib.Data.List.Perm.Basic

/-!
# Sources made of blocks

A header closes whatever is open, so a source may be cut in front of one and
compiled in two parts.  Below a text without a terminator, a text that starts
with a header means what it means on its own: its flows take the place of
flows of the same name above it, and only its line numbers are moved.  Blocks
of this kind that share no flow can therefore be put in any order.
-/

namespace ChatFlow.Source

/-- The first meaningful line of the source, if there is one, is a header. -/
def HeaderLed (source : String) : Prop :=
  ∀ line ∈ (lines source).head?, line.construct.flow? ≠ none

instance (source : String) : Decidable (HeaderLed source) :=
  inferInstanceAs (Decidable (∀ line ∈ (lines source).head?, line.construct.flow? ≠ none))

/-- No line of the source is a terminator. -/
def Unterminated (source : String) : Prop :=
  ∀ line ∈ lines source, line.construct ≠ .terminator

instance (source : String) : Decidable (Unterminated source) :=
  inferInstanceAs (Decidable (∀ line ∈ lines source, line.construct ≠ .terminator))

/-! ## Definitions below each other -/

/-- A header closes the definition before it, so the definitions of two lists
of lines are those of one and then those of the other. -/
theorem definitions_append {below : List Line}
    (hbelow : ∀ line ∈ below.head?, line.construct.flow? ≠ none) (above : List Line) :
    definitions (above ++ below) = definitions above ++ definitions below := by
  induction above with
  | nil => rfl
  | cons line above ih =>
      rw [List.cons_append, definitions, definitions, ih]
      cases line.construct.flow? with
      | none => rfl
      | some name =>
          have huntil : untilHeader (above ++ below) = untilHeader above := by
            unfold untilHeader
            rw [List.takeWhile_append]
            split
            next hlength =>
              have hself := (List.takeWhile_prefix _).eq_of_length hlength
              cases below with
              | nil => rw [List.takeWhile_nil, List.append_nil, hself]
              | cons header rest =>
                  have hheader : header.construct.flow? ≠ none := hbelow header rfl
                  rw [List.takeWhile_cons_of_neg (by simpa using hheader), List.append_nil, hself]
            next => rfl
          rw [huntil]
          rfl

theorem effective?_append_definitions (name : String) (above below : List Definition) :
    effective? name (above ++ below) =
      (effective? name below).or (effective? name above) := by
  unfold effective?
  rw [List.filter_append, List.getLast?_append]

/-! ## Definitions further down -/

theorem blockAfter_map_shift (offset : Nat) (before : List Line) :
    blockAfter (before.map (·.shift offset)) = blockAfter before := by
  unfold blockAfter
  rw [← List.map_reverse, List.findSome?_map]
  rfl

theorem linesIn_map_shift (offset : Nat) (block : Block) (body : List Line) :
    linesIn block (body.map (·.shift offset)) = (linesIn block body).map (·.shift offset) := by
  unfold linesIn
  rw [List.zipIdx_map, List.filter_map, List.map_map, List.map_map]
  congr 1
  apply List.filter_congr
  rintro ⟨line, index⟩ -
  simp only [Function.comp_apply, Prod.map_apply, id_eq, ← List.map_take,
    blockAfter_map_shift]

namespace Definition

/-- The definition after so many more lines. -/
def shift (definition : Definition) (offset : Nat) : Definition where
  name := definition.name
  line := definition.line + offset
  body := definition.body.map (·.shift offset)

theorem texts_shift (definition : Definition) (offset : Nat) :
    (definition.shift offset).texts = definition.texts := by
  unfold texts shift
  rw [linesIn_map_shift, List.filterMap_map]
  rfl

theorem buttons_shift (definition : Definition) (offset : Nat) :
    (definition.shift offset).buttons = definition.buttons := by
  unfold buttons shift
  rw [linesIn_map_shift, List.filterMap_map]
  rfl

theorem node_shift (definition : Definition) (offset : Nat) :
    (definition.shift offset).node = definition.node := by
  unfold node message
  rw [texts_shift, buttons_shift]
  rfl

theorem speaks_shift_iff (definition : Definition) (offset : Nat) :
    (definition.shift offset).Speaks ↔ definition.Speaks := by
  unfold Speaks
  rw [texts_shift]

end Definition

theorem definitions_map_shift (offset : Nat) (read : List Line) :
    definitions (read.map (·.shift offset)) =
      (definitions read).map (·.shift offset) := by
  induction read with
  | nil => rfl
  | cons line read ih =>
      have hflow : (line.shift offset).construct.flow? = line.construct.flow? := rfl
      have huntil : untilHeader (read.map (·.shift offset)) =
          (untilHeader read).map (·.shift offset) := List.takeWhile_map ..
      rw [List.map_cons, definitions, definitions, hflow, huntil, ih]
      cases line.construct.flow? <;> rfl

theorem effective?_map_shift (offset : Nat) (name : String) (found : List Definition) :
    effective? name (found.map (·.shift offset)) =
      (effective? name found).map (·.shift offset) := by
  unfold effective?
  rw [List.filter_map, List.getLast?_map]
  congr 2
  apply List.filter_congr
  intro definition _
  rw [Function.comp_apply, decide_eq_decide, definition.speaks_shift_iff]
  rfl

/-! ## Two blocks -/

theorem readLines_of_unterminated {source : String} (hsource : Unterminated source) :
    readLines source = lines source := by
  rw [readLines, List.takeWhile_eq_self_iff]
  exact fun line hline => decide_eq_true (hsource line hline)

theorem readLines_append_newline {above : String} (habove : Unterminated above)
    (below : String) :
    readLines (above ++ "\n" ++ below) =
      readLines above ++
        (readLines below).map (·.shift (above.toList.count '\n' + 1)) := by
  have hread : ∀ line ∈ lines above, decide (line.construct ≠ .terminator) = true :=
    fun line hline => decide_eq_true (habove line hline)
  rw [readLines_of_unterminated habove, readLines, lines_append_newline,
    List.takeWhile_append_of_pos hread, List.takeWhile_map]
  rfl

theorem HeaderLed.readLines {source : String} (hsource : HeaderLed source) :
    ∀ line ∈ (readLines source).head?, line.construct.flow? ≠ none := by
  intro line hline
  rw [Source.readLines, List.head?_takeWhile] at hline
  exact hsource line (Option.mem_filter_iff.mp hline).1

/-- What is filed for a block below another one: its own, and otherwise what
is filed for the block above. -/
theorem Compilation.get?_ofSource_append {above below : String} (habove : Unterminated above)
    (hbelow : HeaderLed below) (name : String) :
    (ofSource (above ++ "\n" ++ below)).program.get? name =
        ((ofSource below).program.get? name).or ((ofSource above).program.get? name) ∧
      (ofSource (above ++ "\n" ++ below)).headerLines.get? name =
        (((ofSource below).headerLines.get? name).map
          (· + (above.toList.count '\n' + 1))).or ((ofSource above).headerLines.get? name) := by
  obtain ⟨hprogram, hheaderLines⟩ := get?_ofSource (above ++ "\n" ++ below) name
  have hhead : ∀ line ∈ ((readLines below).map
      (·.shift (above.toList.count '\n' + 1))).head?, line.construct.flow? ≠ none := by
    intro shifted hshifted
    rw [List.head?_map] at hshifted
    obtain ⟨line, hline, rfl⟩ := Option.map_eq_some_iff.mp hshifted
    exact hbelow.readLines line hline
  rw [readLines_append_newline habove, definitions_append hhead, definitions_map_shift,
    effective?_append_definitions, effective?_map_shift] at hprogram hheaderLines
  rw [hprogram, hheaderLines, (get?_ofSource above name).1, (get?_ofSource above name).2,
    (get?_ofSource below name).1, (get?_ofSource below name).2]
  cases effective? name (definitions (readLines below)) with
  | none => simp only [Option.map_none, Option.none_or, and_self]
  | some definition =>
      simp only [Option.map_some, Option.some_or, definition.node_shift]
      exact ⟨trivial, rfl⟩

/-! ## Any number of blocks -/

theorem Unterminated.append {above below : String} (habove : Unterminated above)
    (hbelow : Unterminated below) : Unterminated (above ++ "\n" ++ below) := by
  intro line hline
  rw [lines_append_newline] at hline
  rcases List.mem_append.mp hline with hline | hline
  · exact habove line hline
  · obtain ⟨original, horiginal, rfl⟩ := List.mem_map.mp hline
    exact hbelow original horiginal

theorem HeaderLed.append {above below : String} (habove : HeaderLed above)
    (hbelow : HeaderLed below) : HeaderLed (above ++ "\n" ++ below) := by
  intro line hline
  rw [lines_append_newline, List.head?_append] at hline
  cases hfirst : (lines above).head? with
  | some first =>
      rw [hfirst] at hline
      exact habove line (hfirst.trans hline)
  | none =>
      rw [hfirst, Option.none_or, List.head?_map] at hline
      obtain ⟨original, horiginal, rfl⟩ := Option.map_eq_some_iff.mp hline
      exact hbelow original horiginal

/-- A text that can be put below others and above others. -/
structure IsBlock (source : String) : Prop where
  headerLed : HeaderLed source
  unterminated : Unterminated source

instance (source : String) : Decidable (IsBlock source) :=
  decidable_of_iff (HeaderLed source ∧ Unterminated source)
    ⟨fun hboth => ⟨hboth.1, hboth.2⟩, fun hblock => ⟨hblock.headerLed, hblock.unterminated⟩⟩

/-- No flow is in the programs of both sources. -/
def SharesNoFlow (source other : String) : Prop :=
  ∀ name, (Program.ofSource source).contains name = true →
    (Program.ofSource other).contains name = false

instance (source other : String) : Decidable (SharesNoFlow source other) :=
  decidable_of_iff (∀ name ∈ (Program.ofSource source).names,
      (Program.ofSource other).contains name = false)
    (forall_congr' fun _ => imp_congr_left Program.mem_names_iff)

theorem SharesNoFlow.symm {source other : String} (hshares : SharesNoFlow source other) :
    SharesNoFlow other source := by
  intro name hother
  by_contra hsource
  rw [Bool.not_eq_false] at hsource
  rw [hshares name hsource] at hother
  exact Bool.false_ne_true hother

theorem isBlock_intercalate {blocks : List String} (hblocks : ∀ block ∈ blocks, IsBlock block)
    (hsome : blocks ≠ []) : IsBlock ("\n".intercalate blocks) := by
  induction blocks with
  | nil => exact absurd rfl hsome
  | cons block blocks ih =>
      have hblock := hblocks block List.mem_cons_self
      cases blocks with
      | nil => rwa [String.intercalate_singleton]
      | cons next rest =>
          have hrest := ih (fun other hmem => hblocks other (List.mem_cons_of_mem _ hmem))
            (List.cons_ne_nil next rest)
          rw [String.intercalate_cons_cons]
          exact ⟨hblock.headerLed.append hrest.headerLed,
            hblock.unterminated.append hrest.unterminated⟩

/-- Blocks that share no flow keep all their flows when they are joined. -/
theorem get?_ofSource_intercalate {blocks : List String}
    (hblocks : ∀ block ∈ blocks, IsBlock block) (hshares : blocks.Pairwise SharesNoFlow)
    (name : String) (node : Node) :
    (Program.ofSource ("\n".intercalate blocks)).get? name = some node ↔
      ∃ block ∈ blocks, (Program.ofSource block).get? name = some node := by
  induction blocks generalizing node with
  | nil =>
      have hempty : Program.ofSource "" = .empty := by decide +kernel
      simp [hempty]
  | cons block blocks ih =>
      cases blocks with
      | nil => simp [String.intercalate_singleton]
      | cons next rest =>
          have hblock := hblocks block List.mem_cons_self
          have hothers (other : String) (hmem : other ∈ next :: rest) : IsBlock other :=
            hblocks other (List.mem_cons_of_mem _ hmem)
          obtain ⟨hfirst, hrest⟩ := List.pairwise_cons.mp hshares
          have hlater := ih hothers hrest
          have hrestBlock := isBlock_intercalate hothers (List.cons_ne_nil next rest)
          have hjoined : (Program.ofSource (block ++ "\n" ++ "\n".intercalate (next :: rest))).get?
              name = ((Program.ofSource ("\n".intercalate (next :: rest))).get? name).or
                ((Program.ofSource block).get? name) :=
            (Compilation.get?_ofSource_append hblock.unterminated hrestBlock.headerLed name).1
          rw [String.intercalate_cons_cons, hjoined, Option.or_eq_some_iff,
            List.exists_mem_cons_iff, or_comm, ← hlater node]
          refine or_congr_left ⟨fun hboth => hboth.2, fun hhere => ⟨?_, hhere⟩⟩
          -- A flow of the first block is in no other block, so nothing replaces it.
          by_contra hthere
          obtain ⟨replacing, hreplacing⟩ := Option.ne_none_iff_exists'.mp hthere
          obtain ⟨other, hmem, hother⟩ := (hlater replacing).mp hreplacing
          have hcontains : (Program.ofSource block).contains name = true := by
            rw [Program.contains_eq_isSome, hhere, Option.isSome_some]
          have habsent := hfirst other hmem name hcontains
          rw [Program.contains_eq_isSome, hother] at habsent
          exact Bool.false_ne_true habsent.symm

/-- Compiling is modular at headers.  A text that starts with a header, below
one without a terminator, adds its flows and replaces those of the same name,
and its header lines are moved down by the lines above.  Blocks that share no
flow make the same program in every order. -/
theorem ofSource_modular :
    (∀ above below : String, Unterminated above → HeaderLed below →
      ∀ name,
        (Compilation.ofSource (above ++ "\n" ++ below)).program.get? name =
            ((Compilation.ofSource below).program.get? name).or
              ((Compilation.ofSource above).program.get? name) ∧
          (Compilation.ofSource (above ++ "\n" ++ below)).headerLines.get? name =
            (((Compilation.ofSource below).headerLines.get? name).map
              (· + (above.toList.count '\n' + 1))).or
              ((Compilation.ofSource above).headerLines.get? name)) ∧
      ∀ blocks others : List String, blocks.Perm others →
        (∀ block ∈ blocks, IsBlock block) →
        blocks.Pairwise SharesNoFlow →
        Program.ofSource ("\n".intercalate blocks) =
          Program.ofSource ("\n".intercalate others) := by
  refine ⟨fun above below habove hbelow => Compilation.get?_ofSource_append habove hbelow,
    fun blocks others hperm hblocks hshares => Program.ext_get? fun name => ?_⟩
  have hothers (block : String) (hmem : block ∈ others) : IsBlock block :=
    hblocks block (hperm.mem_iff.mpr hmem)
  have hsharesOthers : others.Pairwise SharesNoFlow :=
    hperm.pairwise hshares fun {_ _} hshare => hshare.symm
  apply Option.ext
  intro node
  rw [get?_ofSource_intercalate hblocks hshares,
    get?_ofSource_intercalate hothers hsharesOthers]
  simp only [hperm.mem_iff]

/-- Below two blocks, which may change places, a third one replaces the flow of
one of them. -/
theorem ofSource_modular_replacing :
    let plans := "fluxo planos:\nmensagem:\n\"Temos dois.\"\nbotao 1:\n\"Voltar\" -> inicio"
    let entry := "inicio:\nmensagem:\n\"Oi\"\n"
    let other := "# outra\ninicio:\nmensagem:\n\"Olá\"\nfim\n"
    (Compilation.ofSource (plans ++ "\n" ++ entry ++ "\n" ++ other)).headerLines.get? "inicio" =
        some 11 ∧
      Program.ofSource ("\n".intercalate [plans, entry]) =
        Program.ofSource ("\n".intercalate [entry, plans]) := by
  intro plans entry other
  have habove : Unterminated (plans ++ "\n" ++ entry) := by decide +kernel
  have hbelow : HeaderLed other := by decide +kernel
  have hblocks : ∀ block ∈ [plans, entry], IsBlock block := by decide +kernel
  have hshares : [plans, entry].Pairwise SharesNoFlow := by decide +kernel
  obtain ⟨hfiled, horder⟩ := ofSource_modular
  refine ⟨?_, horder [plans, entry] [entry, plans] (List.Perm.swap ..) hblocks hshares⟩
  rw [(hfiled (plans ++ "\n" ++ entry) other habove hbelow "inicio").2]
  decide +kernel

end ChatFlow.Source
