import ChatFlow.Proofs.Session.Events
import ChatFlow.Proofs.Text.Layout

/-!
# What actions add to the log

The answer to an action lists the turns that the action made, and these are
the ones it put at the end of the log; a restart makes a log of its own.  Only
a text of nothing but white space is refused, and then everything stays as it
was.  So the log of a session grows at its end until a restart, what users said
stands in it without the white space around it, and its visible part is as long
as the window allows.
-/

namespace ChatFlow

/-- A text of a user is not empty and has no white space around it. -/
def Turn.IsTrimmed (turn : Turn) : Prop :=
  turn.origin = .user → turn.text ≠ "" ∧ Text.trimmed turn.text = turn.text

theorem Turn.isTrimmed_of_bot {turn : Turn} (hbot : turn.origin = .bot) : turn.IsTrimmed := by
  intro huser
  rw [hbot] at huser
  contradiction

theorem Turn.isTrimmed_user {text : String} (hsome : (Text.trimmed text).isEmpty = false) :
    (Turn.user (Text.trimmed text)).IsTrimmed := by
  intro _
  refine ⟨fun hempty => ?_, Text.trimmed_trimmed text⟩
  change Text.trimmed text = "" at hempty
  rw [hempty] at hsome
  contradiction

namespace Session

/-- The turns are what the action makes: one turn of the bot for a press, the
trimmed text for a text, with an answer of the bot to a name that is awaited,
and the entry for a restart, if there is one. -/
def Makes (session : Session) (made : List Turn) : Intent → Prop
  | .press _ => ∃ turn, made = [turn] ∧ turn.origin = .bot
  | .text text =>
      if session.phase.isAwaiting then
        ∃ reply, made = [.user (Text.trimmed text), reply] ∧ reply.origin = .bot
      else made = [.user (Text.trimmed text)]
  | .restart =>
      if session.hasEntry then ∃ turn, made = [turn] ∧ turn.origin = .bot else made = []

/-- The part of the log that an action leaves in place. -/
def kept (session : Session) (intent : Intent) : List Turn :=
  if intent = .restart then [] else session.turns

/-! ## Refusals -/

theorem act_text_of_blank (session : Session) {text : String}
    (hblank : Text.AllBlank text.toList) :
    session.act (.text text) = (session, .error .emptyText) := by
  unfold act submit
  dsimp only
  rw [if_pos ((Text.isEmpty_trimmed_iff text).mpr hblank)]

theorem act_text_of_said (session : Session) {text : String}
    (hsome : (Text.trimmed text).isEmpty = false) :
    session.act (.text text) =
      (session.receive (Text.trimmed text),
        .ok (session.added (session.receive (Text.trimmed text)))) := by
  unfold act submit
  dsimp only
  rw [if_neg (by simp [hsome])]

theorem act_refused_iff (session : Session) (intent : Intent) :
    (∃ refusal, (session.act intent).2 = .error refusal) ↔
      ∃ text, intent = .text text ∧ Text.AllBlank text.toList := by
  cases intent with
  | press target => simp [act]
  | restart => simp [act]
  | text text =>
      constructor
      · rintro ⟨refusal, hrefused⟩
        refine ⟨text, rfl, (Text.isEmpty_trimmed_iff text).mp ?_⟩
        by_contra hsome
        rw [Bool.not_eq_true] at hsome
        rw [session.act_text_of_said hsome] at hrefused
        contradiction
      · rintro ⟨other, hother, hblank⟩
        obtain rfl : text = other := Intent.text.inj hother
        exact ⟨.emptyText, congrArg Prod.snd (session.act_text_of_blank hblank)⟩

/-- An action that is refused gives the session back as it was. -/
theorem act_of_refused {session : Session} {intent : Intent}
    (hrefused : ∃ refusal, (session.act intent).2 = .error refusal) :
    (session.act intent).1 = session := by
  obtain ⟨text, rfl, hblank⟩ := (session.act_refused_iff intent).mp hrefused
  exact congrArg Prod.fst (session.act_text_of_blank hblank)

/-! ## Answers -/

/-- The answer lists the turns that stand behind those left in place. -/
theorem answer_of_act {session : Session} {intent : Intent} {made : List Turn}
    (hmade : (session.act intent).2 = .ok made) :
    made = (session.act intent).1.turns.drop (session.kept intent).length := by
  cases intent with
  | press target => exact (Except.ok.inj hmade).symm
  | text text =>
      cases hempty : (Text.trimmed text).isEmpty with
      | true =>
          have hblank := (Text.isEmpty_trimmed_iff text).mp hempty
          rw [session.act_text_of_blank hblank] at hmade
          contradiction
      | false =>
          rw [session.act_text_of_said hempty] at hmade ⊢
          exact (Except.ok.inj hmade).symm
  | restart => exact (Except.ok.inj hmade).symm

/-- A name that is awaited is answered with its confirmation. -/
theorem act_text_of_awaiting {session : Session} {prior? : Option String}
    (hphase : session.phase = .awaiting prior?) {text : String}
    (hsome : (Text.trimmed text).isEmpty = false) :
    session.act (.text text) =
      (session.next (.act (.text text)), .ok
        [.user (Text.trimmed text),
          .say (session.options.messages.confirmation (Text.trimmed text))]) := by
  have hact := session.act_text_of_said hsome
  have hnext : session.next (.act (.text text)) = session.receive (Text.trimmed text) :=
    congrArg Prod.fst hact
  rw [hact, ← hnext, next_text_of_awaiting hphase hsome, added, turns_record, turns_record,
    List.append_assoc, List.drop_left]
  rfl

/-- An action that is not refused puts the turns it makes behind those it
leaves in place. -/
theorem turns_next_act {session : Session} {intent : Intent}
    (htaken : ¬ ∃ refusal, (session.act intent).2 = .error refusal) :
    ∃ made, session.Makes made intent ∧
      (session.next (.act intent)).turns = session.kept intent ++ made := by
  have hmove := session.move_next (.act intent)
  generalize session.next (.act intent) = after at hmove
  cases hmove with
  | prompt => exact ⟨_, ⟨_, rfl, rfl⟩, turns_record ..⟩
  | enter htarget hnode => exact ⟨_, ⟨_, rfl, rfl⟩, turns_record ..⟩
  | fallback hfalls => exact ⟨_, ⟨_, rfl, rfl⟩, turns_record ..⟩
  | @refuse text hempty =>
      rw [act_refused_iff] at htaken
      exact absurd ⟨text, rfl, (Text.isEmpty_trimmed_iff text).mp hempty⟩ htaken
  | @hear text hsome hphase =>
      refine ⟨[.user (Text.trimmed text)], ?_, turns_record ..⟩
      rw [Makes, hphase]
      exact rfl
  | @capture text prior? hsome hphase =>
      let reply := Turn.say (session.options.messages.confirmation (Text.trimmed text))
      refine ⟨[.user (Text.trimmed text), reply], ?_, ?_⟩
      · rw [Makes, hphase]
        exact ⟨reply, rfl, rfl⟩
      · rw [turns_record, turns_record, List.append_assoc]
        rfl
  | restart =>
      refine ⟨session.restart.turns, ?_, rfl⟩
      rw [Makes, hasEntry, Program.contains_eq_isSome, restart, turns_start]
      change if session.program.entry?.isSome = true then _ else _
      cases session.program.entry? with
      | none => rfl
      | some entry => exact ⟨.ofNode entry, rfl, rfl⟩

/-! ## Runs -/

theorem prefix_next (session : Session) {event : Event} (hevent : event ≠ .act .restart) :
    session.turns <+: (session.next event).turns := by
  cases event with
  | reload program => exact List.prefix_refl _
  | act intent =>
      by_cases hrefused : ∃ refusal, (session.act intent).2 = .error refusal
      · have hsame : session.next (.act intent) = session := act_of_refused hrefused
        simp [hsame]
      · obtain ⟨made, -, hturns⟩ := turns_next_act hrefused
        rw [hturns, kept, if_neg (fun heq => hevent (congrArg Event.act heq))]
        exact List.prefix_append _ _

theorem prefix_run (session : Session) {events : List Event}
    (hevents : .act .restart ∉ events) : session.turns <+: (session.run events).turns := by
  induction events generalizing session with
  | nil => exact List.prefix_refl _
  | cons event events ih =>
      rw [List.mem_cons, not_or] at hevents
      have hfirst := session.prefix_next (Ne.symm hevents.1)
      exact hfirst.trans (ih (session.next event) hevents.2)

/-- The log holds what users said without white space around it, and its window
is that of the options. -/
structure WellLogged (session : Session) : Prop where
  said : ∀ turn ∈ session.turns, turn.IsTrimmed
  window : session.transcript.window = session.options.window

theorem WellLogged.record {session : Session} (hsession : session.WellLogged) {turn : Turn}
    (hturn : turn.IsTrimmed) (phase : Phase) : (session.record turn phase).WellLogged where
  said other hmem := by
    rw [turns_record] at hmem
    rcases List.mem_append.mp hmem with hold | hnew
    · exact hsession.said other hold
    · rw [List.mem_singleton.mp hnew]
      exact hturn
  window := hsession.window

theorem wellLogged_start (program : Program) (options : Options) :
    (start program options).WellLogged := by
  let blank : Session := ⟨program, options, { transcript := { window := options.window } }⟩
  have hblank : blank.WellLogged := ⟨fun turn hmem => absurd hmem List.not_mem_nil, rfl⟩
  unfold start
  cases program.entry? with
  | none => exact hblank
  | some entry => exact hblank.record (Turn.isTrimmed_of_bot rfl) _

theorem WellLogged.next {session : Session} (hsession : session.WellLogged) (event : Event) :
    (session.next event).WellLogged := by
  have hmove := session.move_next event
  generalize session.next event = after at hmove
  cases hmove with
  | prompt => exact hsession.record (Turn.isTrimmed_of_bot rfl) _
  | enter htarget hnode => exact hsession.record (Turn.isTrimmed_of_bot rfl) _
  | fallback hfalls => exact hsession.record (Turn.isTrimmed_of_bot rfl) _
  | refuse hempty => exact hsession
  | hear hsome hphase => exact hsession.record (Turn.isTrimmed_user hsome) _
  | capture hsome hphase =>
      have hheard := hsession.record (Turn.isTrimmed_user hsome) session.phase
      exact hheard.record (Turn.isTrimmed_of_bot rfl) _
  | restart => exact wellLogged_start session.program session.options
  | reload => exact ⟨hsession.said, hsession.window⟩

theorem WellLogged.run {session : Session} (hsession : session.WellLogged)
    (events : List Event) : (session.run events).WellLogged := by
  induction events generalizing session with
  | nil => exact hsession
  | cons event events ih => exact ih (hsession.next event)

/-- An action is refused if and only if it is a text of white space, and then
nothing changes; any other action answers with the turns that it puts behind
those it leaves in place.  So until a restart the log grows at its end, all that
users said in it is trimmed, and the end of it that is visible is as long as the
window allows. -/
theorem act_answers_what_it_logs :
    (∀ (session : Session) (intent : Intent),
      ((∃ refusal, (session.act intent).2 = .error refusal) ↔
          ∃ text, intent = .text text ∧ Text.AllBlank text.toList) ∧
        (∀ after refusal, session.act intent = (after, .error refusal) →
          after = session ∧ session.next (.act intent) = session) ∧
        ∀ after made, session.act intent = (after, .ok made) →
          session.next (.act intent) = after ∧ after.program = session.program ∧
            after.options = session.options ∧ session.Makes made intent ∧
            after.turns = (if intent = .restart then [] else session.turns) ++ made) ∧
      ∀ (program : Program) (options : Options) (before later : List Event),
        let earlier := (start program options).run before
        let session := earlier.run later
        (.act .restart ∉ later → earlier.turns <+: session.turns) ∧
          (∀ turn ∈ session.turns, turn.origin = .user →
            turn.text ≠ "" ∧ Text.trimmed turn.text = turn.text) ∧
          session.transcript.visible <:+ session.turns ∧
          session.transcript.visible.length =
            min session.turns.length options.window.toNat := by
  constructor
  · intro session intent
    refine ⟨session.act_refused_iff intent, fun after refusal hact => ?_,
      fun after made hact => ?_⟩
    · have hsame := act_of_refused ⟨refusal, congrArg Prod.snd hact⟩
      exact ⟨by rw [← hsame, hact], hsame⟩
    · have hnext : session.next (.act intent) = after := congrArg Prod.fst hact
      have hanswer : (session.act intent).2 = .ok made := congrArg Prod.snd hact
      have htaken : ¬ ∃ refusal, (session.act intent).2 = .error refusal := by
        rw [hanswer]
        simp
      obtain ⟨new, hmakes, hturns⟩ := turns_next_act htaken
      have hsame : made = new := by
        rw [answer_of_act hanswer, ← next, hturns, List.drop_left]
      rw [hnext] at hturns
      rw [hsame]
      refine ⟨hnext, ?_, ?_, hmakes, hturns⟩
      · rw [← hnext, program_next_act]
      · rw [← hnext, options_next]
  · intro program options before later earlier session
    -- Restarts keep the invariant too, so only the growth of the log excludes them.
    have hlogged : session.WellLogged :=
      ((wellLogged_start program options).run before).run later
    have hoptions : session.options = options := by
      rw [options_run, options_run, (program_start program options).2]
    refine ⟨earlier.prefix_run, hlogged.said, session.transcript.visible_suffix, ?_⟩
    rw [← hoptions, ← hlogged.window]
    exact session.transcript.length_visible

/-- A name is logged without the white space around it, and two turns are visible. -/
theorem act_answers_what_it_logs_name :
    let program := Program.empty.insert ⟨entryName, "Oi", []⟩
    let asked := (start program { window := 2 }).run [.act (.press handoffTarget)]
    let named := asked.run [.reload .empty, .act (.text " Maria ")]
    asked.act (.text " \n") = (asked, .error .emptyText) ∧
      (∃ after made, asked.act (.text " Maria ") = (after, .ok made) ∧
        asked.Makes made (.text " Maria ") ∧ after.turns = asked.turns ++ made) ∧
      asked.turns <+: named.turns ∧ named.transcript.visible.length = 2 := by
  intro program asked named
  obtain ⟨hact, hrun⟩ := act_answers_what_it_logs
  refine ⟨?_, ?_, ?_⟩
  · obtain ⟨hrefused, hsame, -⟩ := hact asked (.text " \n")
    have hblank : Text.AllBlank " \n".toList :=
      (Text.isEmpty_trimmed_iff " \n").mp (by decide +kernel)
    obtain ⟨⟨⟩, hanswer⟩ := hrefused.mpr ⟨" \n", rfl, hblank⟩
    obtain ⟨hafter, -⟩ := hsame _ .emptyText (Prod.ext rfl hanswer)
    exact Prod.ext hafter hanswer
  · obtain ⟨hrefused, -, htaken⟩ := hact asked (.text " Maria ")
    cases hanswer : (asked.act (.text " Maria ")).2 with
    | error refusal =>
        obtain ⟨text, htext, hblank⟩ := hrefused.mp ⟨refusal, hanswer⟩
        obtain rfl : " Maria " = text := Intent.text.inj htext
        exact absurd (hblank 'M' (by decide)) (by decide)
    | ok made =>
        obtain ⟨-, -, -, hmakes, hturns⟩ := htaken _ made (Prod.ext rfl hanswer)
        exact ⟨_, made, Prod.ext rfl hanswer, hmakes, hturns⟩
  · obtain ⟨hgrows, -, -, hlength⟩ := hrun program { window := 2 }
      [.act (.press handoffTarget)] [.reload .empty, .act (.text " Maria ")]
    exact ⟨hgrows (by decide), hlength.trans (by decide +kernel)⟩

end Session

end ChatFlow
