import ChatFlow.Chat.Input
import ChatFlow.Proofs.Text.Layout
import Mathlib.Data.List.Basic

/-!
# What a chat depends on

A chat is a function of its settings, the flow file it starts with, the bytes
of its input and the outcomes of reading the flow file again, one for each
line.  A failed attempt to read the file counts for nothing: the chat goes on
as if it had found the content that it read last.  What comes at or after a
line that ends the chat counts for nothing either.
-/

namespace ChatFlow.Chat

/-- What happened when the flow file was read again, line by line. -/
abbrev Outcomes := Nat → Except FileError String

/-! ## Lines of an input -/

/-- The lines among the stretches between line feeds: each but the last was
ended by a line feed, and the last one counts only if it holds something. -/
def linesOfStretches : List (List UInt8) → List (List UInt8)
  | [] => []
  | [last] => if last.isEmpty then [] else [last]
  | ended :: next :: rest => withoutReturn ended :: linesOfStretches (next :: rest)

/-- The lines of an input without their line ends. -/
def inputLines (input : List UInt8) : List (List UInt8) :=
  linesOfStretches (input.splitOn lineFeed)

/-- What a line of bytes brings, with the outcome of reading the flow file. -/
def eventOfLine (line : List UInt8) (outcome : Except FileError String) : ChatEvent :=
  match String.fromUTF8? ⟨line.toArray⟩ with
  | some text => .line text outcome
  | none => .garbled

/-- The events of lines, each with the outcome of its own attempt. -/
def eventsOfLines : List (List UInt8) → Outcomes → List ChatEvent
  | [], _ => []
  | line :: rest, outcomes =>
      eventOfLine line (outcomes 0) :: eventsOfLines rest fun index => outcomes (index + 1)

/-- What an input brings to a chat. -/
def heard (input : List UInt8) (outcomes : Outcomes) : List ChatEvent :=
  eventsOfLines (inputLines input) outcomes

/-- The content that was read last at a line, where at first there was another
one. -/
def lastRead (first : String) (outcomes : Outcomes) : Nat → String
  | 0 => (outcomes 0).toOption.getD first
  | index + 1 => (outcomes (index + 1)).toOption.getD (lastRead first outcomes index)

theorem eventsOfLines_append (lines more : List (List UInt8)) (outcomes : Outcomes) :
    eventsOfLines (lines ++ more) outcomes =
      eventsOfLines lines outcomes ++
        eventsOfLines more fun index => outcomes (lines.length + index) := by
  induction lines generalizing outcomes with
  | nil => simp [eventsOfLines]
  | cons line lines ih =>
      simp only [List.cons_append, eventsOfLines, ih, List.length_cons, Nat.add_right_comm]

theorem linesOfStretches_append {stretches : List (List UInt8)} (hsome : stretches ≠ [])
    (ended : List (List UInt8)) :
    linesOfStretches (ended ++ stretches) =
      ended.map withoutReturn ++ linesOfStretches stretches := by
  induction ended with
  | nil => rfl
  | cons line ended ih =>
      obtain ⟨next, rest, hnext⟩ := List.exists_cons_of_ne_nil
        (List.append_ne_nil_of_right_ne_nil ended hsome)
      rw [List.cons_append, hnext, linesOfStretches, ← hnext, ih]
      rfl

/-- Lines that are ended are heard before the rest of an input. -/
theorem inputLines_append {before : List UInt8}
    (hbefore : before = [] ∨ before.getLast? = some lineFeed) (rest : List UInt8) :
    inputLines (before ++ rest) = inputLines before ++ inputLines rest := by
  rcases hbefore with rfl | hlast
  · rfl
  · obtain ⟨ended, rfl⟩ := List.getLast?_eq_some_iff.mp hlast
    unfold inputLines
    rw [List.append_assoc, List.singleton_append, List.splitOn_append_cons_self,
      List.splitOn_append_cons_self, linesOfStretches_append (List.splitOn_ne_nil _ _),
      linesOfStretches_append (List.splitOn_ne_nil _ _), List.append_assoc]
    rfl

/-! ## Input that arrives in pieces -/

theorem eventsOfLines_congr {lines : List (List UInt8)} {outcomes others : Outcomes}
    (hsame : ∀ index < lines.length, outcomes index = others index) :
    eventsOfLines lines outcomes = eventsOfLines lines others := by
  induction lines generalizing outcomes others with
  | nil => rfl
  | cons line lines ih =>
      rw [eventsOfLines, eventsOfLines, hsame 0 (Nat.zero_lt_succ _),
        ih fun index hindex => hsame (index + 1) (Nat.succ_lt_succ hindex)]

theorem eventsOfLines_const (lines : List (List UInt8)) (file : Option File) :
    (eventsOfLines lines fun _ => File.text file) = lines.map (eventOfBytes · file) := by
  induction lines with
  | nil => rfl
  | cons line lines ih =>
      rw [eventsOfLines, ih]
      rfl

theorem eventsOfStretches_append (file : Option File) (ended : List (List UInt8))
    (pending : List UInt8) :
    eventsOfStretches file (ended ++ [pending]) =
      ((ended.map withoutReturn).map (eventOfBytes · file), pending) := by
  induction ended with
  | nil => rfl
  | cons line ended ih =>
      obtain ⟨next, rest, hnext⟩ := List.exists_cons_of_ne_nil
        (List.append_ne_nil_of_right_ne_nil ended (List.cons_ne_nil pending []))
      rw [List.cons_append, hnext, eventsOfStretches, ← hnext, ih]
      rfl

/-- What stands after the last line feed is no line yet. -/
theorem exists_splitOn_eq (bytes : List UInt8) :
    ∃ ended pending, bytes.splitOn lineFeed = ended ++ [pending] ∧ lineFeed ∉ pending ∧
      ∀ more, inputLines (bytes ++ more) =
        ended.map withoutReturn ++ inputLines (pending ++ more) := by
  by_cases hfeed : lineFeed ∈ bytes
  · obtain ⟨after, before, hreverse, hafter⟩ :=
      List.eq_append_cons_of_mem (List.mem_reverse.mpr hfeed)
    have hbytes : bytes = before.reverse ++ lineFeed :: after.reverse := by
      rw [← List.reverse_reverse bytes, hreverse]
      simp
    have hpending : lineFeed ∉ after.reverse := by simpa using hafter
    refine ⟨before.reverse.splitOn lineFeed, after.reverse, ?_, hpending, fun more => ?_⟩
    · rw [hbytes, List.splitOn_append_cons_self, List.splitOn_eq_singleton hpending]
    · unfold inputLines
      rw [hbytes, List.append_assoc, List.cons_append, List.splitOn_append_cons_self,
        linesOfStretches_append (List.splitOn_ne_nil _ _)]
  · exact ⟨[], bytes, List.splitOn_eq_singleton hfeed, hfeed, fun _ => rfl⟩

theorem exists_events_eq {pending : List UInt8} (hpending : lineFeed ∉ pending)
    (file : Option File) (deliveries : List Delivery) :
    ∃ outcomes, events file pending deliveries =
      heard (pending ++ deliveries.flatMap (·.bytes)) outcomes := by
  induction deliveries generalizing pending file with
  | nil =>
      refine ⟨fun _ => File.text file, ?_⟩
      unfold heard inputLines
      rw [List.flatMap_nil, List.append_nil, List.splitOn_eq_singleton hpending, events,
        linesOfStretches]
      split <;> rfl
  | cons delivery rest ih =>
      obtain ⟨ended, left, hsplit, hleft, hlines⟩ :=
        exists_splitOn_eq (pending ++ delivery.bytes)
      obtain ⟨later, hlater⟩ := ih hleft (delivery.change?.getD file)
      -- Lines ended by this piece see the file as it is now, and the others as it is later.
      refine ⟨fun index =>
        if index < (ended.map withoutReturn).length then
          File.text (delivery.change?.getD file)
        else later (index - (ended.map withoutReturn).length), ?_⟩
      rw [events, hsplit, eventsOfStretches_append]
      dsimp only
      rw [hlater]
      unfold heard
      rw [List.flatMap_cons, ← List.append_assoc, hlines, eventsOfLines_append,
        ← eventsOfLines_const]
      congr 1
      · exact eventsOfLines_congr fun index hindex => (if_pos hindex).symm
      · refine eventsOfLines_congr fun index _ => ?_
        rw [if_neg (Nat.not_lt.mpr (Nat.le_add_right _ _)), Nat.add_sub_cancel_left]

/-- A chat over pieces of input depends on the bytes of the pieces and on what
reading the flow file gave at each line. -/
theorem exists_runDeliveries_eq (settings : Settings) (file : Option File)
    (deliveries : List Delivery) :
    ∃ outcomes, runDeliveries settings file deliveries =
      run settings (File.text file) (heard (deliveries.flatMap (·.bytes)) outcomes) := by
  obtain ⟨outcomes, houtcomes⟩ := exists_events_eq List.not_mem_nil file deliveries
  exact ⟨outcomes, congrArg (run settings (File.text file)) houtcomes⟩

/-! ## Attempts that fail -/

theorem lastRead_succ (first : String) (outcomes : Outcomes) (index : Nat) :
    lastRead first outcomes (index + 1) =
      lastRead ((outcomes 0).toOption.getD first) (fun later => outcomes (later + 1)) index := by
  induction index with
  | zero => rfl
  | succ index ih => rw [lastRead, ih, lastRead]

/-- A preview whose version is that of the content read last takes a failed
attempt for that content, and has the version of what was read last after it. -/
theorem refresh_eq {preview : Preview} {last : String}
    (hversion : preview.version = Text.Sha256.digest last) (outcome : Except FileError String) :
    refresh preview outcome = refresh preview (.ok (outcome.toOption.getD last)) ∧
      (refresh preview outcome).1.version =
        Text.Sha256.digest (outcome.toOption.getD last) := by
  cases outcome with
  | error reason =>
      have hsame : preview.edit? last = none := if_pos hversion.symm
      refine ⟨?_, hversion⟩
      simp only [refresh, Except.toOption, Option.getD_none, hsame]
  | ok source =>
      refine ⟨rfl, ?_⟩
      simp only [refresh, Preview.edit?, Except.toOption, Option.getD_some]
      by_cases hsame : Text.Sha256.digest source = preview.version
      · simp [hsame]
      · simp [hsame]

theorem version_hear (preview : Preview) (line : String) (outcome : Except FileError String) :
    (hear preview line outcome).1.version = (refresh preview outcome).1.version := by
  unfold hear
  dsimp only
  split <;> rfl

theorem continueWith_lastRead {preview : Preview} {last : String}
    (hversion : preview.version = Text.Sha256.digest last) (lines : List (List UInt8))
    (outcomes : Outcomes) :
    continueWith preview (eventsOfLines lines outcomes) =
      continueWith preview (eventsOfLines lines fun index => .ok (lastRead last outcomes index)) := by
  induction lines generalizing preview last outcomes with
  | nil => rfl
  | cons line lines ih =>
      obtain ⟨hrefresh, hnext⟩ := refresh_eq hversion (outcomes 0)
      simp only [eventsOfLines, lastRead_succ]
      unfold eventOfLine
      cases String.fromUTF8? ⟨line.toArray⟩ with
      | none => rfl
      | some text =>
          have hhear : hear preview (Text.trimmed text) (.ok (lastRead last outcomes 0)) =
              hear preview (Text.trimmed text) (outcomes 0) := by
            rw [lastRead, hear, hear, hrefresh]
          rw [← version_hear preview (Text.trimmed text)] at hnext
          simp only [continueWith, hhear]
          rw [ih hnext fun index => outcomes (index + 1)]

/-! ## The end of a chat -/

/-- The line is text that ends a chat, but for the white space around it. -/
def EndsChat (line : List UInt8) : Prop :=
  ∃ text, String.fromUTF8? ⟨line.toArray⟩ = some text ∧ quits (Text.trimmed text) = true

theorem continueWith_append_of_quits {text : String}
    (hquits : quits (Text.trimmed text) = true) (preview : Preview) (before : List ChatEvent)
    (outcome : Except FileError String) (after : List ChatEvent) :
    continueWith preview (before ++ .line text outcome :: after) =
      continueWith preview before := by
  induction before generalizing preview with
  | nil => simp [continueWith, hquits]
  | cons event before ih =>
      cases event with
      | garbled => rfl
      | line other file => simp only [List.cons_append, continueWith, ih]

/-- Bytes are read as a text if and only if they are its UTF-8 form. -/
theorem fromUTF8?_eq_some_iff {bytes : List UInt8} {text : String} :
    String.fromUTF8? ⟨bytes.toArray⟩ = some text ↔
      bytes = text.toList.flatMap String.utf8EncodeChar := by
  have htext : text.toByteArray = ⟨(text.toList.flatMap String.utf8EncodeChar).toArray⟩ := by
    have hself := congrArg String.toByteArray (String.ofList_toList (s := text))
    rw [String.toByteArray_ofList] at hself
    apply ByteArray.ext
    rw [← hself, ← List.data_toByteArray]
    rfl
  have hread : String.fromUTF8? ⟨bytes.toArray⟩ = some text ↔
      ⟨bytes.toArray⟩ = text.toByteArray := by
    unfold String.fromUTF8?
    constructor
    · intro hsome
      split at hsome
      next => exact congrArg String.toByteArray (Option.some.inj hsome)
      next => contradiction
    · intro hsame
      rw [hsame, dif_pos text.isValidUTF8]
      rfl
  rw [hread, htext]
  exact ⟨fun hsame => by simpa using congrArg ByteArray.data hsame, fun hsame => hsame ▸ rfl⟩

/-- Only the UTF-8 form of a carriage return ends with the byte of one. -/
theorem eq_return_of_getLast?_utf8EncodeChar {c : Char}
    (hlast : (String.utf8EncodeChar c).getLast? = some carriageReturn) : c = '\r' := by
  have hlater (n : Nat) : UInt8.ofNat (n % 64 + 128) ≠ carriageReturn := by
    intro hbyte
    have hvalue := congrArg UInt8.toNat hbyte
    simp [carriageReturn] at hvalue
    omega
  unfold String.utf8EncodeChar at hlast
  dsimp only at hlast
  split at hlast
  next hascii =>
    have hvalue := congrArg UInt8.toNat (Option.some.inj hlast)
    simp [carriageReturn] at hvalue
    have hchar : c.toNat = 13 := by
      have hsmall : c.toNat ≤ 127 := hascii
      omega
    exact Char.ext (UInt32.toNat.inj hchar)
  next =>
    split at hlast
    · exact absurd (Option.some.inj hlast) (hlater _)
    · split at hlast
      · exact absurd (Option.some.inj hlast) (hlater _)
      · exact absurd (Option.some.inj hlast) (hlater _)

/-- A carriage return that is taken off with a line end is white space of its
line. -/
theorem EndsChat.withoutReturn {line : List UInt8} (hline : EndsChat line) :
    EndsChat (withoutReturn line) := by
  obtain ⟨text, htext, hquits⟩ := hline
  unfold Chat.withoutReturn
  split
  next hlast =>
    rw [fromUTF8?_eq_some_iff] at htext
    rcases List.eq_nil_or_concat text.toList with hnil | ⟨chars, c, hchars⟩
    · rw [hnil] at htext
      simp [htext] at hlast
    · rw [List.concat_eq_append] at hchars
      rw [hchars, List.flatMap_append, List.flatMap_singleton] at htext
      have hne : String.utf8EncodeChar c ≠ [] := String.utf8EncodeChar_ne_nil
      rw [htext, List.getLast?_append_of_ne_nil _ hne] at hlast
      have hreturn := eq_return_of_getLast?_utf8EncodeChar hlast
      subst hreturn
      refine ⟨String.ofList chars, ?_, ?_⟩
      · rw [fromUTF8?_eq_some_iff, String.toList_ofList, htext]
        exact List.dropLast_concat
      · have hdrop : Text.dropReturn text.toList = chars := by simp [Text.dropReturn, hchars]
        unfold Text.trimmed at hquits ⊢
        rw [String.toList_ofList, ← hdrop, Text.trim_dropReturn]
        exact hquits
  next => exact ⟨text, htext, hquits⟩

theorem EndsChat.eventOfLine {line : List UInt8} (hline : EndsChat line)
    (outcome : Except FileError String) :
    ∃ text, eventOfLine line outcome = .line text outcome ∧
      quits (Text.trimmed text) = true := by
  obtain ⟨text, htext, hquits⟩ := hline
  refine ⟨text, ?_, hquits⟩
  rw [Chat.eventOfLine, htext]

theorem EndsChat.ne_nil {line : List UInt8} (hline : EndsChat line) : line ≠ [] := by
  rintro rfl
  obtain ⟨text, htext, hquits⟩ := hline
  have hempty : String.fromUTF8? ⟨[].toArray⟩ = some "" := fromUTF8?_eq_some_iff.mpr rfl
  rw [Option.some.inj (htext.symm.trans hempty)] at hquits
  exact absurd hquits (by decide +kernel)

/-- A line that ends a chat is heard as one, whether it has a line end or not. -/
theorem exists_inputLines_eq {line after : List UInt8} (hline : EndsChat line)
    (hfeed : lineFeed ∉ line) (hafter : ∀ byte ∈ after.head?, byte = lineFeed) :
    ∃ heardLine rest, inputLines (line ++ after) = heardLine :: rest ∧ EndsChat heardLine := by
  cases after with
  | nil =>
      refine ⟨line, [], ?_, hline⟩
      rw [List.append_nil, inputLines, List.splitOn_eq_singleton hfeed, linesOfStretches]
      simp [hline.ne_nil]
  | cons byte rest =>
      obtain rfl : byte = lineFeed := hafter byte rfl
      refine ⟨Chat.withoutReturn line, inputLines rest, ?_, hline.withoutReturn⟩
      rw [inputLines, List.splitOn_append_cons_self, List.splitOn_eq_singleton hfeed,
        linesOfStretches_append (List.splitOn_ne_nil _ _)]
      rfl

/-- A chat goes by the content of the flow file that was read last, so an
attempt that fails is as good as one that finds this content again; and it
goes by nothing from a line on that ends it. -/
theorem run_lastRead_until_end (settings : Settings) (source : String) :
    (∀ input outcomes,
      run settings (.ok source) (heard input outcomes) =
        run settings (.ok source)
          (heard input fun index => .ok (lastRead source outcomes index))) ∧
      ∀ before line after outcomes,
        before = [] ∨ before.getLast? = some lineFeed →
        EndsChat line → lineFeed ∉ line → (∀ byte ∈ after.head?, byte = lineFeed) →
          run settings (.ok source) (heard (before ++ (line ++ after)) outcomes) =
            run settings (.ok source) (heard before outcomes) := by
  constructor
  · intro input outcomes
    have hversion : (Preview.start source settings.options).version =
        Text.Sha256.digest source := rfl
    have hsame := continueWith_lastRead hversion (inputLines input) outcomes
    simp only [run, heard, hsame]
  · intro before line after outcomes hbefore hline hfeed hafter
    obtain ⟨last, rest, hlines, hlast⟩ := exists_inputLines_eq hline hfeed hafter
    obtain ⟨text, hevent, hquits⟩ :=
      hlast.eventOfLine (outcomes ((inputLines before).length + 0))
    have hheard : heard (before ++ (line ++ after)) outcomes =
        heard before outcomes ++
          .line text (outcomes ((inputLines before).length + 0)) ::
            eventsOfLines rest fun index => outcomes ((inputLines before).length + (index + 1)) := by
      unfold heard
      rw [inputLines_append hbefore, hlines, eventsOfLines_append, eventsOfLines, hevent]
    simp only [run, hheard, continueWith_append_of_quits hquits]

/-- A chat in which a button is pressed by its number and another number stands
below the line that ends the chat. -/
theorem run_lastRead_until_end_pressed :
    let source := "inicio:\nmensagem:\n\"Oi\"\nbotao 1:\n\"Humano\" -> atendimento_humano\n"
    let before : List UInt8 := [49, 10]
    let line : List UInt8 := [32, 47, 113, 117, 105, 116, 13]
    let outcomes : Outcomes := fun _ => .error .missing
    run {} (.ok source) (heard (before ++ (line ++ [10, 57, 10])) outcomes) =
      run {} (.ok source) (heard before outcomes) := by
  intro source before line outcomes
  have hbefore : before.getLast? = some lineFeed := rfl
  have htext : String.fromUTF8? ⟨line.toArray⟩ = some " /quit\r" :=
    fromUTF8?_eq_some_iff.mpr (by decide +kernel)
  have hline : EndsChat line := ⟨" /quit\r", htext, by decide +kernel⟩
  have hafter : ∀ byte ∈ [10, 57, 10].head?, byte = lineFeed := by
    simp [lineFeed]
  exact (run_lastRead_until_end {} source).2 before line [10, 57, 10] outcomes
    (Or.inr hbefore) hline (by decide) hafter

end ChatFlow.Chat
