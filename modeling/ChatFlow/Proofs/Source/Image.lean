import ChatFlow.Proofs.Source.Definitions
import ChatFlow.Proofs.Source.Grammar

/-!
# Programs that sources compile to

What a source can say limits the programs it compiles to: names and targets
are identifiers, labels hold no quote, and no message starts with a line feed.
These limits are the only ones.  Every program within them has a text that
compiles back to it.
-/

namespace ChatFlow

/-- The label can be written between quotes on one line. -/
structure Button.WellFormed (button : Button) : Prop where
  label : button.label ≠ ""
  quote : '"' ∉ button.label.toList
  feed : '\n' ∉ button.label.toList
  target : isIdentifier button.target.toList = true

structure Node.WellFormed (node : Node) : Prop where
  name : isIdentifier node.name.toList = true
  message : node.message ≠ ""
  feed : node.message.toList.head? ≠ some '\n'
  buttons : ∀ button ∈ node.buttons, button.WellFormed

/-- Every node is filed under its own name and can be written. -/
def Program.WellFormed (program : Program) : Prop :=
  ∀ name node, program.get? name = some node → node.name = name ∧ node.WellFormed

namespace Source

open ChatFlow.Text

/-! ## Sources compile to well-formed programs -/

/-- A line of a source that is read as a construct is a form of it, but for the
white space around it. -/
theorem written_of_mem_lines {source : String} {line : Line} (hmem : line ∈ lines source)
    (hknown : ∀ text, line.construct ≠ .unrecognized text) :
    ∃ row, '\n' ∉ row ∧ line.construct.Written row := by
  obtain ⟨⟨raw, number⟩, hraw, hline⟩ := List.mem_filterMap.mp hmem
  have hfeed := feed_not_mem_of_mem_lines (List.fst_mem_of_mem_zipIdx hraw)
  obtain ⟨-, hread⟩ := Option.ite_none_left_eq_some.mp hline
  obtain rfl := Option.some.inj hread
  refine ⟨trim raw, fun hrow => hfeed (mem_of_mem_trim hrow), ?_⟩
  have hwritten := (Construct.written_of_ofLine rfl).resolve_left (hknown _)
  rwa [String.toList_ofList] at hwritten

theorem mem_lines_of_mem_readLines {source : String} {line : Line}
    (hmem : line ∈ readLines source) : line ∈ lines source :=
  (List.takeWhile_sublist _).mem hmem

theorem Definition.isIdentifier_name {source : String} {definition : Definition}
    (hmem : definition ∈ definitions (readLines source)) :
    isIdentifier definition.name.toList = true := by
  obtain ⟨header, hheader, hflow, -⟩ := exists_header_of_mem_definitions hmem
  have hwritten := written_of_mem_lines (mem_lines_of_mem_readLines hheader)
  cases hconstruct : header.construct with
  | entryHeader =>
      rw [hconstruct] at hflow
      rw [← Option.some.inj hflow]
      decide
  | flowHeader name =>
      rw [hconstruct] at hflow hwritten
      obtain ⟨row, -, hrow⟩ := hwritten (by simp)
      rw [← Option.some.inj hflow]
      cases hrow
      assumption
  | _ => simp [hconstruct, Construct.flow?] at hflow

theorem Definition.feed_not_mem_texts {source : String} {definition : Definition}
    (hmem : definition ∈ definitions (readLines source)) {text : String}
    (htext : text ∈ definition.texts) : '\n' ∉ text.toList := by
  obtain ⟨-, -, -, -, hbody⟩ := exists_header_of_mem_definitions hmem
  obtain ⟨line, hline, hquoted⟩ := List.mem_filterMap.mp htext
  have hwritten := written_of_mem_lines
    (mem_lines_of_mem_readLines (hbody line (mem_of_mem_linesIn hline)))
  cases hconstruct : line.construct with
  | quoted other =>
      rw [hconstruct] at hquoted hwritten
      obtain ⟨row, hfeed, hrow⟩ := hwritten (by simp)
      rw [← Option.some.inj hquoted]
      cases hrow
      exact fun hother => hfeed (by simp [hother])
  | _ => simp [hconstruct, Construct.text?] at hquoted

theorem Definition.wellFormed_buttons {source : String} {definition : Definition}
    (hmem : definition ∈ definitions (readLines source)) {button : Button}
    (hbutton : button ∈ definition.buttons) : button.WellFormed := by
  obtain ⟨-, -, -, -, hbody⟩ := exists_header_of_mem_definitions hmem
  obtain ⟨line, hline, harrow⟩ := List.mem_filterMap.mp hbutton
  have hwritten := written_of_mem_lines
    (mem_lines_of_mem_readLines (hbody line (mem_of_mem_linesIn hline)))
  cases hconstruct : line.construct with
  | arrow label target =>
      rw [hconstruct] at harrow hwritten
      obtain ⟨row, hfeed, hrow⟩ := hwritten (by simp)
      rw [← Option.some.inj harrow]
      cases hrow with
      | arrow hlabel hquote hbefore hafter hrest htarget =>
          refine ⟨?_, hquote, fun hother => hfeed (by simp [hother]), htarget⟩
          rintro rfl
          exact hlabel rfl
  | _ => simp [hconstruct, Construct.button?] at harrow

theorem head?_joined {texts : List String} (hspeaks : ∃ text ∈ texts, text ≠ "") :
    ∃ text ∈ texts, text ≠ "" ∧ (joined texts).toList.head? = text.toList.head? := by
  rcases dropWhile_isEmpty_cases texts with ⟨-, hall⟩ | ⟨first, rest, hcons, hfirst, hmem⟩
  · obtain ⟨text, hmem, hne⟩ := hspeaks
    exact absurd (hall text hmem) hne
  · refine ⟨first, hmem, hfirst, ?_⟩
    have hchars : first.toList ≠ [] := by simpa using hfirst
    unfold joined
    rw [hcons]
    cases rest with
    | nil => rw [String.intercalate_singleton]
    | cons second rest =>
        rw [String.intercalate_cons_cons, String.append_assoc, String.toList_append,
          List.head?_append_of_ne_nil _ hchars]

theorem Definition.wellFormed_node {source : String} {definition : Definition}
    (hmem : definition ∈ definitions (readLines source)) (hspeaks : definition.Speaks) :
    definition.node.WellFormed where
  name := isIdentifier_name hmem
  message := definition.speaks_iff_message_ne.mp hspeaks
  feed := by
    obtain ⟨text, htext, -, hhead⟩ := head?_joined hspeaks
    intro hfeed
    rw [show definition.node.message = joined definition.texts from rfl, hhead] at hfeed
    exact feed_not_mem_texts hmem htext (List.mem_of_mem_head? hfeed)
  buttons _ hbutton := wellFormed_buttons hmem hbutton

theorem wellFormed_ofSource (source : String) : (Program.ofSource source).WellFormed := by
  intro name node hnode
  have hfiled := (Compilation.get?_ofSource source name).1
  rw [show (Compilation.ofSource source).program.get? name = some node from hnode] at hfiled
  obtain ⟨definition, heffective, rfl⟩ := Option.map_eq_some_iff.mp hfiled.symm
  obtain ⟨hmem, hname, hspeaks⟩ := name_of_effective? heffective
  exact ⟨hname, Definition.wellFormed_node hmem hspeaks⟩

/-! ## Writing constructs -/

namespace Construct

def row : Construct → String
  | .entryHeader => entryName ++ ":"
  | .flowHeader name => "fluxo " ++ name ++ ":"
  | .messageOpener => "mensagem:"
  | .buttonOpener index => "botao " ++ index ++ ":"
  | .quoted text => "\"" ++ text ++ "\""
  | .arrow label target => "\"" ++ label ++ "\" -> " ++ target
  | .terminator => "fim"
  | .unrecognized text => text

/-- What is written in the usual way is read back. -/
def Writable : Construct → Prop
  | .entryHeader | .messageOpener | .terminator => True
  | .flowHeader name => isIdentifier name.toList = true
  | .buttonOpener index => index ≠ "" ∧ ∀ c ∈ index.toList, c.isDigit = true
  | .quoted text => '\n' ∉ text.toList
  | .arrow label target => (Button.mk label target).WellFormed
  | .unrecognized _ => False

theorem allBlank_space : AllBlank [' '] := by
  decide

theorem Writable.written {construct : Construct} (hwritable : construct.Writable) :
    construct.Written construct.row.toList := by
  cases construct with
  | entryHeader => exact .entryHeader allBlank_nil
  | flowHeader name =>
      have hwritten := Written.flowHeader allBlank_space (by simp) allBlank_nil hwritable
      simpa [row] using hwritten
  | messageOpener => exact .messageOpener allBlank_nil
  | buttonOpener index =>
      obtain ⟨hsome, hdigits⟩ := hwritable
      have hwritten := Written.buttonOpener allBlank_space allBlank_nil (by simpa) hdigits
      simpa [row] using hwritten
  | quoted text => simpa [row] using Written.quoted text
  | arrow label target =>
      have hwritten := Written.arrow (by simpa using hwritable.label) hwritable.quote
        allBlank_space allBlank_space allBlank_nil hwritable.target
      simpa [row] using hwritten
  | terminator => exact .terminator
  | unrecognized text => exact hwritable.elim

theorem feed_not_mem_identifier {name : List Char} (hname : isIdentifier name = true) :
    '\n' ∉ name := by
  intro hmem
  exact absurd ((isIdentifier_iff.mp hname).2 '\n' hmem) (by decide)

theorem Writable.feed_not_mem {construct : Construct} (hwritable : construct.Writable) :
    '\n' ∉ construct.row.toList := by
  cases construct with
  | entryHeader => decide
  | flowHeader name => simp [row, feed_not_mem_identifier hwritable]
  | messageOpener => decide
  | buttonOpener index =>
      have hindex : '\n' ∉ index.toList :=
        fun hmem => absurd (hwritable.2 '\n' hmem) (by decide)
      simp [row, hindex]
  | quoted text => simpa [row] using show '\n' ∉ text.toList from hwritable
  | arrow label target =>
      simpa [row, feed_not_mem_identifier hwritable.target] using hwritable.feed
  | terminator => decide
  | unrecognized text => exact hwritable.elim

theorem Writable.last_not_blank {construct : Construct} (hwritable : construct.Writable)
    {c : Char} (hlast : construct.row.toList.getLast? = some c) : isBlank c = false := by
  have hends (before : List Char) (last : Char)
      (hrow : construct.row.toList = before ++ [last]) : last = c := by
    rw [hrow, List.getLast?_concat] at hlast
    exact Option.some.inj hlast
  cases construct with
  | entryHeader =>
      obtain rfl := hends entryName.toList ':' rfl
      decide
  | flowHeader name =>
      obtain rfl := hends ("fluxo ".toList ++ name.toList) ':' (by simp [row])
      decide
  | messageOpener =>
      obtain rfl := hends "mensagem".toList ':' rfl
      decide
  | buttonOpener index =>
      obtain rfl := hends ("botao ".toList ++ index.toList) ':' (by simp [row])
      decide
  | quoted text =>
      obtain rfl := hends ('"' :: text.toList) '"' (by simp [row])
      decide
  | arrow label target =>
      obtain ⟨hsome, hchars⟩ := isIdentifier_iff.mp hwritable.target
      rw [row, String.toList_append, List.getLast?_append_of_ne_nil _ hsome] at hlast
      exact isBlank_eq_false_of_isNameChar (hchars c (List.mem_of_getLast? hlast))
  | terminator =>
      obtain rfl := hends ['f', 'i'] 'm' rfl
      decide
  | unrecognized text => exact hwritable.elim

theorem Written.head_not_blank {construct : Construct} {row : List Char}
    (hwritten : construct.Written row) {c : Char} (hhead : row.head? = some c) :
    isBlank c = false ∧ c ≠ '/' ∧ c ≠ '#' := by
  rw [hwritten.head?_eq] at hhead
  cases construct with
  | unrecognized text => cases hwritten
  | _ =>
      obtain rfl := Option.some.inj hhead
      decide

end Construct

/-- A form of a construct that does not end with white space is read as it. -/
theorem Line.ofText?_of_written {construct : Construct} {row : List Char}
    (hwritten : construct.Written row) (hlast : ∀ c ∈ row.getLast?, isBlank c = false)
    (number : Nat) : Line.ofText? number row = some ⟨number, construct⟩ := by
  have htrim : trim row = row :=
    trim_eq_self (fun c hhead => (hwritten.head_not_blank hhead).1) hlast
  have hread : Construct.ofLine (String.ofList row) = construct :=
    Construct.ofLine_eq_of_written (String.toList_ofList.symm ▸ hwritten)
  obtain ⟨c, rest, hrow⟩ : ∃ c rest, row = c :: rest := by
    apply List.exists_cons_of_ne_nil
    rintro rfl
    have hhead := hwritten.head?_eq
    cases construct with
    | unrecognized text => cases hwritten
    | _ => simp [Construct.firstChar?] at hhead
  obtain ⟨-, hslash, hsharp⟩ := hwritten.head_not_blank (c := c) (by rw [hrow, List.head?_cons])
  have hcomment : isComment row = false := by
    simp [hrow, isComment, List.isPrefixOf_cons_cons, Ne.symm hslash, Ne.symm hsharp]
  unfold ofText?
  rw [htrim]
  dsimp only
  rw [hcomment, hread, if_neg (by simp [hrow])]

theorem Line.ofText?_row {construct : Construct} (hwritable : construct.Writable)
    (number : Nat) : Line.ofText? number construct.row.toList = some ⟨number, construct⟩ :=
  Line.ofText?_of_written hwritable.written (fun _ => hwritable.last_not_blank) number

/-- Constructs on lines of their own, the first with the given number. -/
def numbered (first : Nat) (constructs : List Construct) : List Line :=
  (constructs.zipIdx first).map fun (construct, number) => ⟨number, construct⟩

def print (constructs : List Construct) : String :=
  String.join (constructs.map fun construct => construct.row ++ "\n")

theorem lines_print {constructs : List Construct}
    (hwritable : ∀ construct ∈ constructs, construct.Writable) :
    lines (print constructs) = numbered 1 constructs := by
  have hchars : (print constructs).toList =
      (constructs.map (·.row.toList)).flatMap (· ++ ['\n']) := by
    simp [print, String.toList_join, List.flatMap_map]
  have hrows : Text.lines (print constructs).toList = constructs.map (·.row.toList) := by
    rw [hchars, lines_ended, List.map_map]
    · apply List.map_congr_left
      intro construct hmem
      apply if_neg
      intro hlast
      exact absurd ((hwritable construct hmem).last_not_blank hlast) (by decide)
    · intro row hmem
      obtain ⟨construct, hconstruct, rfl⟩ := List.mem_map.mp hmem
      exact (hwritable construct hconstruct).feed_not_mem
  unfold lines numbered
  rw [hrows, List.zipIdx_map, List.filterMap_map, ← List.filterMap_eq_map]
  apply List.filterMap_congr
  intro entry hmem
  exact Line.ofText?_row (hwritable entry.1 (List.fst_mem_of_mem_zipIdx hmem)) entry.2

theorem numbered_append (first : Nat) (before after : List Construct) :
    numbered first (before ++ after) =
      numbered first before ++ numbered (first + before.length) after := by
  simp [numbered, List.zipIdx_append]

theorem numbered_cons (first : Nat) (construct : Construct) (rest : List Construct) :
    numbered first (construct :: rest) =
      ⟨first, construct⟩ :: numbered (first + 1) rest := by
  simp [numbered, List.zipIdx_cons]

theorem filterMap_numbered {α : Type} (f : Construct → Option α) (first : Nat)
    (constructs : List Construct) :
    (numbered first constructs).filterMap (fun line => f line.construct) =
      constructs.filterMap f := by
  induction constructs generalizing first with
  | nil => rfl
  | cons construct rest ih =>
      rw [numbered_cons, List.filterMap_cons, List.filterMap_cons, ih]

theorem construct_mem_of_mem_numbered {first : Nat} {constructs : List Construct} {line : Line}
    (hmem : line ∈ numbered first constructs) : line.construct ∈ constructs := by
  obtain ⟨entry, hentry, rfl⟩ := List.mem_map.mp hmem
  exact List.fst_mem_of_mem_zipIdx hentry

end Source

/-! ## Printing programs -/

namespace Node

open Source (Construct)

/-- The message as quoted texts, one for each stretch between its line feeds. -/
def textConstructs (node : Node) : List Construct :=
  (Text.stretches node.message.toList).map fun stretch => .quoted (String.ofList stretch)

def buttonConstructs (node : Node) : List Construct :=
  node.buttons.map fun button => .arrow button.label button.target

/-- What stands below the header of the node; a node without buttons has no
button block. -/
def bodyConstructs (node : Node) : List Construct :=
  .messageOpener :: node.textConstructs ++
    if node.buttons = [] then [] else .buttonOpener "1" :: node.buttonConstructs

def constructs (node : Node) : List Construct :=
  .flowHeader node.name :: node.bodyConstructs

theorem WellFormed.writable {node : Node} (hnode : node.WellFormed) {construct : Construct}
    (hmem : construct ∈ node.constructs) : construct.Writable := by
  have htexts : ∀ construct ∈ node.textConstructs, construct.Writable := by
    intro construct hmem
    obtain ⟨stretch, hstretch, rfl⟩ := List.mem_map.mp hmem
    have hfeed := Text.not_mem_of_mem_stretches hstretch
    rwa [← String.toList_ofList (l := stretch)] at hfeed
  have hbuttons : ∀ construct ∈ node.buttonConstructs, construct.Writable := by
    intro construct hmem
    obtain ⟨button, hbutton, rfl⟩ := List.mem_map.mp hmem
    exact hnode.buttons button hbutton
  rcases List.mem_cons.mp hmem with rfl | hmem
  · exact hnode.name
  · rcases List.mem_append.mp hmem with hmem | hmem
    · rcases List.mem_cons.mp hmem with rfl | hmem
      · trivial
      · exact htexts construct hmem
    · split at hmem
      · simp at hmem
      · rcases List.mem_cons.mp hmem with rfl | hmem
        · refine ⟨by decide, fun c hmem => ?_⟩
          obtain rfl : c = '1' := by simpa using hmem
          decide
        · exact hbuttons construct hmem

theorem mem_bodyConstructs {node : Node} {construct : Construct}
    (hmem : construct ∈ node.bodyConstructs) :
    construct = .messageOpener ∨ construct = .buttonOpener "1" ∨
      (∃ text, construct = .quoted text) ∨ ∃ label target, construct = .arrow label target := by
  rcases List.mem_append.mp hmem with hmem | hmem
  · rcases List.mem_cons.mp hmem with rfl | hmem
    · exact Or.inl rfl
    · obtain ⟨stretch, -, rfl⟩ := List.mem_map.mp hmem
      exact Or.inr (Or.inr (Or.inl ⟨_, rfl⟩))
  · split at hmem
    · simp at hmem
    · rcases List.mem_cons.mp hmem with rfl | hmem
      · exact Or.inr (Or.inl rfl)
      · obtain ⟨button, -, rfl⟩ := List.mem_map.mp hmem
        exact Or.inr (Or.inr (Or.inr ⟨_, _, rfl⟩))

theorem flow?_of_mem_bodyConstructs {node : Node} {construct : Construct}
    (hmem : construct ∈ node.bodyConstructs) : construct.flow? = none := by
  rcases mem_bodyConstructs hmem with rfl | rfl | ⟨text, rfl⟩ | ⟨label, target, rfl⟩ <;> rfl

theorem ne_terminator_of_mem_constructs {node : Node} {construct : Construct}
    (hmem : construct ∈ node.constructs) : construct ≠ .terminator := by
  rintro rfl
  rcases List.mem_cons.mp hmem with hheader | hbody
  · contradiction
  · simpa using mem_bodyConstructs hbody

theorem WellFormed.joined_texts {node : Node} (hnode : node.WellFormed) :
    Source.joined (node.textConstructs.filterMap Construct.text?) = node.message := by
  have htexts : node.textConstructs.filterMap Construct.text? =
      (Text.stretches node.message.toList).map String.ofList := by
    simp [textConstructs, List.filterMap_map, Function.comp_def, Construct.text?]
  obtain ⟨c, rest, hmessage⟩ :=
    List.exists_cons_of_ne_nil (l := node.message.toList) (by simpa using hnode.message)
  have hc : c ≠ '\n' := by
    rintro rfl
    exact hnode.feed (by rw [hmessage, List.head?_cons])
  obtain ⟨first, others, hrest⟩ := List.exists_cons_of_ne_nil (Text.stretches_ne_nil rest)
  have hstretches := Text.stretches_cons_of_ne hc hrest
  unfold Source.joined
  rw [htexts, hmessage, hstretches, List.map_cons,
    List.dropWhile_cons_of_neg (by simp), ← List.map_cons, ← hstretches,
    ← hmessage, ← String.toList_inj, String.toList_intercalate, List.map_map]
  have hback : (Text.stretches node.message.toList).map (String.toList ∘ String.ofList) =
      Text.stretches node.message.toList := by
    simp [Function.comp_def]
  rw [hback]
  exact Text.intercalate_stretches node.message.toList

/-- The definition that the constructs of the node are read as. -/
def definition (node : Node) (first : Nat) : Source.Definition where
  name := node.name
  line := first
  body := Source.numbered (first + 1) node.bodyConstructs

theorem block?_textConstructs (node : Node) {first : Nat} {line : Source.Line}
    (hmem : line ∈ Source.numbered first node.textConstructs) : line.construct.block? = none := by
  obtain ⟨stretch, -, hstretch⟩ := List.mem_map.mp (Source.construct_mem_of_mem_numbered hmem)
  rw [← hstretch]
  rfl

theorem block?_buttonConstructs (node : Node) {first : Nat} {line : Source.Line}
    (hmem : line ∈ Source.numbered first node.buttonConstructs) :
    line.construct.block? = none := by
  obtain ⟨button, -, hbutton⟩ := List.mem_map.mp (Source.construct_mem_of_mem_numbered hmem)
  rw [← hbutton]
  rfl

theorem button?_buttonConstructs (node : Node) :
    node.buttonConstructs.filterMap Construct.button? = node.buttons := by
  simp [buttonConstructs, List.filterMap_map, Function.comp_def, Construct.button?]

/-- The texts stand in a message block and the buttons in a button block. -/
theorem texts_buttons_definition (node : Node) (first : Nat) :
    (node.definition first).texts = node.textConstructs.filterMap Construct.text? ∧
      (node.definition first).buttons = node.buttons := by
  let opener : Source.Line := ⟨first + 1, .messageOpener⟩
  let texts := Source.numbered (first + 2) node.textConstructs
  have hopener : opener.construct.block? = some .message := rfl
  obtain ⟨hblock, hlines⟩ :=
    Source.linesIn_append_block hopener (fun _ => node.block?_textConstructs) []
  simp only [List.nil_append] at hblock hlines
  have hmessage : (Source.linesIn .message (opener :: texts)).filterMap (·.construct.text?) =
      node.textConstructs.filterMap Construct.text? := by
    rw [hlines]
    exact Source.filterMap_numbered Construct.text? (first + 2) node.textConstructs
  have hnoButtons : Source.linesIn .buttons (opener :: texts) = [] := hlines .buttons
  unfold Source.Definition.texts Source.Definition.buttons
  by_cases hbuttons : node.buttons = []
  · have hbody : (node.definition first).body = opener :: texts := by
      simp [definition, bodyConstructs, hbuttons, Source.numbered_cons, opener, texts]
    rw [hbody, hmessage, hnoButtons, hbuttons]
    exact ⟨rfl, rfl⟩
  · let count := first + 2 + node.textConstructs.length
    let buttonOpener : Source.Line := ⟨count, .buttonOpener "1"⟩
    let arrows := Source.numbered (count + 1) node.buttonConstructs
    have hbody : (node.definition first).body =
        (opener :: texts) ++ buttonOpener :: arrows := by
      simp [definition, bodyConstructs, hbuttons, Source.numbered_cons,
        Source.numbered_append, opener, texts, buttonOpener, arrows, count, Nat.add_assoc]
    have hbuttonOpener : buttonOpener.construct.block? = some .buttons := rfl
    obtain ⟨-, hall⟩ := Source.linesIn_append_block hbuttonOpener
      (fun _ => node.block?_buttonConstructs) (opener :: texts)
    rw [hbody, hall, hall, hblock, hnoButtons]
    constructor
    · -- The opener of the button block stands in the message block, but is no text.
      rw [if_pos rfl, if_neg (by decide), List.append_nil, List.filterMap_append, hmessage]
      exact List.append_nil _
    · exact (Source.filterMap_numbered Construct.button? (count + 1) _).trans
        node.button?_buttonConstructs

theorem WellFormed.node_definition {node : Node} (hnode : node.WellFormed) (first : Nat) :
    (node.definition first).node = node := by
  obtain ⟨htexts, hbuttons⟩ := node.texts_buttons_definition first
  unfold Source.Definition.node Source.Definition.message
  rw [htexts, hbuttons, hnode.joined_texts]
  rfl

end Node

namespace Source

theorem node_definitions_numbered {nodes : List Node} (hnodes : ∀ node ∈ nodes, node.WellFormed)
    (first : Nat) :
    let lines := numbered first (nodes.flatMap Node.constructs)
    (definitions lines).map Definition.node = nodes ∧ untilHeader lines = [] := by
  induction nodes generalizing first with
  | nil => exact ⟨rfl, rfl⟩
  | cons node rest ih =>
      obtain ⟨hrest, hheader⟩ :=
        ih (fun other hmem => hnodes other (List.mem_cons_of_mem _ hmem))
          (first + 1 + node.bodyConstructs.length)
      have hplain : ∀ line ∈ numbered (first + 1) node.bodyConstructs,
          line.construct.flow? = none :=
        fun line hmem => Node.flow?_of_mem_bodyConstructs (construct_mem_of_mem_numbered hmem)
      obtain ⟨hlater, hbody⟩ := definitions_append_of_plain hplain
        (numbered (first + 1 + node.bodyConstructs.length) (rest.flatMap Node.constructs))
      have hnode := (hnodes node List.mem_cons_self).node_definition first
      dsimp only
      rw [List.flatMap_cons, Node.constructs, List.cons_append, numbered_cons, numbered_append]
      constructor
      · rw [definitions, hbody, hheader, List.append_nil, hlater]
        exact congrArg₂ List.cons hnode hrest
      · rfl

end Source

def Program.text (program : Program) : String :=
  Source.print (program.nodes.flatMap Node.constructs)

namespace Program

namespace WellFormed

variable {program : Program}

theorem nodes_wellFormed (hprogram : program.WellFormed) {node : Node}
    (hmem : node ∈ program.nodes) : node.WellFormed := by
  obtain ⟨name, hname⟩ := mem_nodes_iff.mp hmem
  exact (hprogram name node hname).2

theorem readLines_text (hprogram : program.WellFormed) :
    Source.readLines program.text =
      Source.numbered 1 (program.nodes.flatMap Node.constructs) := by
  have hlines : Source.lines program.text =
      Source.numbered 1 (program.nodes.flatMap Node.constructs) := by
    apply Source.lines_print
    intro construct hmem
    obtain ⟨node, hnode, hconstruct⟩ := List.mem_flatMap.mp hmem
    exact (hprogram.nodes_wellFormed hnode).writable hconstruct
  unfold Source.readLines
  rw [hlines, List.takeWhile_eq_self_iff]
  intro line hline
  have hmem := Source.construct_mem_of_mem_numbered hline
  obtain ⟨node, -, hconstruct⟩ := List.mem_flatMap.mp hmem
  simpa using node.ne_terminator_of_mem_constructs hconstruct

theorem ofSource_text (hprogram : program.WellFormed) : ofSource program.text = program := by
  let found := Source.definitions (Source.readLines program.text)
  have hfound : found.map Source.Definition.node = program.nodes := by
    unfold found
    rw [hprogram.readLines_text]
    exact (Source.node_definitions_numbered (fun _ => hprogram.nodes_wellFormed) 1).1
  have hget (name : String) : (ofSource program.text).get? name = program.get? name := by
    rw [show (ofSource program.text).get? name =
      (Source.effective? name found).map Source.Definition.node from
        (Source.Compilation.get?_ofSource program.text name).1]
    cases heffective : Source.effective? name found with
    | some definition =>
        obtain ⟨hmem, hname, -⟩ := Source.name_of_effective? heffective
        have hnode : definition.node ∈ program.nodes :=
          hfound ▸ List.mem_map_of_mem hmem
        obtain ⟨other, hother⟩ := mem_nodes_iff.mp hnode
        have hsame : other = name := (hprogram other _ hother).1.symm.trans hname
        rw [Option.map_some, ← hsame, hother]
    | none =>
        cases hfiled : program.get? name with
        | none => rfl
        | some node =>
            obtain ⟨hname, hnode⟩ := hprogram name node hfiled
            have hmem : node ∈ found.map Source.Definition.node :=
              hfound ▸ mem_nodes_iff.mpr ⟨name, hfiled⟩
            obtain ⟨definition, hdefinition, rfl⟩ := List.mem_map.mp hmem
            have hspeaks := definition.speaks_iff_message_ne.mpr hnode.message
            have hsome := (Source.effective?_isSome_iff name found).mpr
              ⟨definition, hdefinition, hname, hspeaks⟩
            simp [heffective] at hsome
  exact ext_get? hget

end WellFormed

theorem wellKeyed_ofSource (source : String) : (ofSource source).WellKeyed :=
  fun name node hnode => (Source.wellFormed_ofSource source name node hnode).1

/-- The programs that sources compile to are the well-formed ones, and these are
the programs that their own texts compile to. -/
theorem image_ofSource (program : Program) :
    ((∃ source, ofSource source = program) ↔ program.WellFormed) ∧
      (ofSource program.text = program ↔ program.WellFormed) := by
  have hforward {source : String} (hsource : ofSource source = program) :
      program.WellFormed :=
    hsource ▸ Source.wellFormed_ofSource source
  refine ⟨⟨?_, ?_⟩, hforward, fun hprogram => hprogram.ofSource_text⟩
  · rintro ⟨source, hsource⟩
    exact hforward hsource
  · exact fun hprogram => ⟨program.text, hprogram.ofSource_text⟩

end Program

end ChatFlow
