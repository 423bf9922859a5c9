import ChatFlow.Chat
import ChatFlow.Proofs.Session.Events
import ChatFlow.Proofs.Text.Digits

/-!
# Numbers typed in a chat

A chat shows the buttons of a turn with numbers before them and takes a number
that is typed for a press.  Showing counts from one and looking up from zero, and
the turn that is looked at is searched for from the end.  The two agree: unless a
name is awaited, a number presses the button that was shown with it last.
-/

namespace ChatFlow

/-! ## What is shown -/

/-- The line that shows the button with its number. -/
def Button.row (button : Button) (number : Nat) : String :=
  "  [" ++ toString number ++ "] " ++ button.label

/-- A turn of the bot is shown by its text and, below it, its buttons. -/
theorem Turn.shown_eq {turn : Turn} (hbot : turn.isBot = true) {buttons : List Button}
    (hbuttons : turn.buttons? = some buttons) :
    turn.shown =
      (Text.lines turn.text.toList).map (fun line => "bot: " ++ String.ofList line) ++
        (buttons.zipIdx 1).map fun (button, number) => button.row number := by
  unfold shown offered
  rw [if_pos hbot, hbuttons]
  rfl

namespace Session

/-- Only turns of the bot have buttons. -/
def BotOffers (session : Session) : Prop :=
  ∀ turn ∈ session.turns, turn.buttons? ≠ none → turn.isBot = true

theorem BotOffers.record {session : Session} (hsession : session.BotOffers) {turn : Turn}
    (hturn : turn.buttons? ≠ none → turn.isBot = true) (phase : Phase) :
    (session.record turn phase).BotOffers := by
  intro other hmem
  rw [turns_record] at hmem
  rcases List.mem_append.mp hmem with hold | hnew
  · exact hsession other hold
  · rw [List.mem_singleton.mp hnew]
    exact hturn

theorem botOffers_start (program : Program) (options : Options) :
    (start program options).BotOffers := by
  intro turn hmem _
  rw [turns_start] at hmem
  obtain ⟨entry, -, rfl⟩ := Option.map_eq_some_iff.mp (Option.mem_toList.mp hmem)
  rfl

theorem BotOffers.next {session : Session} (hsession : session.BotOffers) (event : Event) :
    (session.next event).BotOffers := by
  have hmove := session.move_next event
  generalize session.next event = after at hmove
  cases hmove with
  | prompt => exact hsession.record (fun _ => rfl) _
  | enter htarget hnode => exact hsession.record (fun _ => rfl) _
  | fallback hfalls => exact hsession.record (fun _ => rfl) _
  | refuse hempty => exact hsession
  | hear hsome hphase => exact hsession.record (absurd rfl) _
  | @capture text prior? hsome hphase =>
      have hheard : (session.record (.user (Text.trimmed text)) session.phase).BotOffers :=
        hsession.record (absurd rfl) session.phase
      exact hheard.record (fun _ => rfl) _
  | restart => exact botOffers_start session.program session.options
  | reload => exact hsession

theorem BotOffers.run {session : Session} (hsession : session.BotOffers)
    (events : List Event) : (session.run events).BotOffers := by
  induction events generalizing session with
  | nil => exact hsession
  | cons event events ih => exact ih (hsession.next event)

/-- The turn is the last one with buttons, also if there are none of them. -/
def OffersLast (session : Session) (turn : Turn) (buttons : List Button) : Prop :=
  ∃ before after, session.turns = before ++ turn :: after ∧ turn.buttons? = some buttons ∧
    ∀ later ∈ after, later.buttons? = none

theorem shownButtons?_eq_some_iff {session : Session} {buttons : List Button} :
    session.shownButtons? = some buttons ↔ ∃ turn, session.OffersLast turn buttons := by
  unfold shownButtons? OffersLast
  rw [List.findSome?_eq_some_iff]
  constructor
  · rintro ⟨after, turn, before, hturns, hbuttons, hafter⟩
    refine ⟨turn, before.reverse, after.reverse, ?_, hbuttons, by simpa using hafter⟩
    rw [← List.reverse_reverse session.turns, hturns]
    simp
  · rintro ⟨turn, before, after, hturns, hbuttons, hafter⟩
    refine ⟨after.reverse, turn, before.reverse, ?_, hbuttons, by simpa using hafter⟩
    rw [hturns]
    simp

/-! ## What a number means -/

/-- A line chooses the button that is shown last with the number it writes. -/
theorem choice?_eq_some_iff {session : Session} {line : String} {button : Button} :
    session.choice? line = some button ↔
      ∃ buttons number, session.shownButtons? = some buttons ∧
        Text.Writes line.toList number ∧ number < UInt64.size ∧
          (button, number) ∈ buttons.zipIdx 1 := by
  unfold choice?
  simp only [Option.bind_eq_bind, Option.bind_eq_some_iff, Option.ite_none_left_eq_some,
    List.mk_mem_zipIdx_iff_le_and_getElem?_sub]
  constructor
  · rintro ⟨buttons, hshown, number, hread, hzero, hbutton⟩
    have hpositive : 1 ≤ number.toNat :=
      Nat.one_le_iff_ne_zero.mpr fun heq => hzero (UInt64.toNat_inj.mp heq)
    exact ⟨buttons, number.toNat, hshown, Text.unsigned?_eq_some_iff.mp hread,
      number.toNat_lt_size, hpositive, hbutton⟩
  · rintro ⟨buttons, number, hshown, hwrites, hfits, hpositive, hbutton⟩
    have hnumber : (UInt64.ofNat number).toNat = number := UInt64.toNat_ofNat_of_lt' hfits
    refine ⟨buttons, hshown, UInt64.ofNat number, ?_, ?_, ?_⟩
    · rwa [Text.unsigned?_eq_some_iff, hnumber]
    · intro hzero
      rw [hzero] at hnumber
      exact absurd (hnumber.symm ▸ hpositive) (by decide)
    · rwa [hnumber]

theorem intent_eq_restart_iff {session : Session} {line : String} :
    session.intent line = .restart ↔ line = "/restart" := by
  unfold intent
  split
  next heq => simp [heq]
  next hne =>
    split
    · simpa using hne
    · split <;> simpa using hne

theorem not_writes_restart (number : Nat) : ¬ Text.Writes "/restart".toList number := by
  rw [Text.writes_iff]
  rintro ⟨hdigits, -⟩
  revert hdigits
  decide

theorem intent_eq_press_iff {session : Session} {line target : String} :
    session.intent line = .press target ↔
      session.phase.isAwaiting = false ∧
        ∃ button, session.choice? line = some button ∧ button.target = target := by
  have hrestart (button : Button) : session.choice? "/restart" ≠ some button := by
    intro hchoice
    obtain ⟨-, number, -, hwrites, -⟩ := choice?_eq_some_iff.mp hchoice
    exact not_writes_restart number hwrites
  unfold intent
  split
  next heq => simp [heq, hrestart]
  next hne =>
    split
    next hawaiting => simp [hawaiting]
    next hawaiting =>
      cases hchoice : session.choice? line <;> simp [hawaiting]

theorem intent_eq_text {session : Session} {line : String} (hrestart : line ≠ "/restart")
    (hpress : ∀ target, session.intent line ≠ .press target) :
    session.intent line = .text line := by
  cases hintent : session.intent line with
  | press target => exact absurd hintent (hpress target)
  | restart => exact absurd (intent_eq_restart_iff.mp hintent) hrestart
  | text text =>
      unfold intent at hintent
      rw [if_neg hrestart] at hintent
      split at hintent
      · exact hintent.symm
      · split at hintent
        · contradiction
        · exact hintent.symm

/-- In every session that is reached, `/restart` starts over, and unless a name is
awaited a number of sixty-four bits presses the button at its place, counted from
one, of the last turn with buttons, if that turn has so many.  Any other line is
text.  The turn is shown with the same numbers before its buttons: typing one of
them presses the button behind it, and no line presses a button that is not
there, whatever came after the turn. -/
theorem intent_reads_shown_numbers (program : Program) (options : Options)
    (events : List Event) :
    let session := (start program options).run events
    (∀ line,
        (session.intent line = .restart ↔ line = "/restart") ∧
          (∀ target, session.intent line = .press target ↔
            session.phase.isAwaiting = false ∧
              ∃ turn buttons, session.OffersLast turn buttons ∧
                ∃ number, Text.Writes line.toList number ∧ number < UInt64.size ∧
                  1 ≤ number ∧ (buttons[number - 1]?).map (·.target) = some target) ∧
          (line ≠ "/restart" → (∀ target, session.intent line ≠ .press target) →
            session.intent line = .text line)) ∧
      ∀ turn buttons, session.OffersLast turn buttons →
        (turn.shown =
            (Text.lines turn.text.toList).map (fun line => "bot: " ++ String.ofList line) ++
              (buttons.zipIdx 1).map fun (button, number) => button.row number) ∧
          (session.phase.isAwaiting = false →
            ∀ button number, (button, number) ∈ buttons.zipIdx 1 → number < UInt64.size →
              session.intent (toString number) = .press button.target) ∧
          ∀ line target, session.intent line = .press target →
            ∃ button number, (button, number) ∈ buttons.zipIdx 1 ∧
              Text.Writes line.toList number ∧ button.target = target := by
  intro session
  have hbot : session.BotOffers := (botOffers_start program options).run events
  constructor
  · intro line
    refine ⟨intent_eq_restart_iff, fun target => ?_, intent_eq_text⟩
    rw [intent_eq_press_iff]
    refine and_congr_right fun _ => ?_
    simp only [choice?_eq_some_iff, shownButtons?_eq_some_iff,
      List.mk_mem_zipIdx_iff_le_and_getElem?_sub, Option.map_eq_some_iff]
    constructor
    · rintro ⟨button, ⟨buttons, number, ⟨turn, hlast⟩, hwrites, hfits, hone, hbutton⟩, htarget⟩
      exact ⟨turn, buttons, hlast, number, hwrites, hfits, hone, button, hbutton, htarget⟩
    · rintro ⟨turn, buttons, hlast, number, hwrites, hfits, hone, button, hbutton, htarget⟩
      exact ⟨button, ⟨buttons, number, ⟨turn, hlast⟩, hwrites, hfits, hone, hbutton⟩, htarget⟩
  · intro turn buttons hlast
    have hshown : session.shownButtons? = some buttons :=
      shownButtons?_eq_some_iff.mpr ⟨turn, hlast⟩
    refine ⟨?_, fun hawaiting button number hbutton hfits => ?_, fun line target hpress => ?_⟩
    · obtain ⟨before, after, hturns, hbuttons, -⟩ := hlast
      have hmem : turn ∈ session.turns := by simp [hturns]
      exact turn.shown_eq (hbot turn hmem (by simp [hbuttons])) hbuttons
    · have hwrites : Text.Writes (toString number).toList number := by
        rw [show (toString number).toList = Text.decimal number from Nat.toList_repr]
        exact Text.writes_decimal number
      rw [intent_eq_press_iff]
      exact ⟨hawaiting, button,
        choice?_eq_some_iff.mpr ⟨buttons, number, hshown, hwrites, hfits, hbutton⟩, rfl⟩
    · obtain ⟨-, button, hchoice, htarget⟩ := intent_eq_press_iff.mp hpress
      obtain ⟨others, number, hothers, hwrites, -, hbutton⟩ := choice?_eq_some_iff.mp hchoice
      obtain rfl : buttons = others := Option.some.inj (hshown.symm.trans hothers)
      exact ⟨button, number, hbutton, hwrites, htarget⟩

/-- After a name was captured and the program reloaded, a number still presses the
button that was shown with it. -/
theorem intent_reads_shown_numbers_captured :
    let buttons : List Button := [⟨"Planos", "planos"⟩, ⟨"Preços", "precos"⟩]
    let session := (start (Program.empty.insert ⟨entryName, "Oi", buttons⟩) {}).run
      [.act (.text "Olá"), .act (.press handoffTarget), .act (.text "Maria"), .reload .empty]
    (∃ turn, session.OffersLast turn buttons ∧ "  [2] Preços" ∈ turn.shown) ∧
      session.intent "2" = .press "precos" ∧ session.intent "+02" = .press "precos" := by
  intro buttons session
  obtain ⟨hlines, hshown⟩ := intent_reads_shown_numbers
    (Program.empty.insert ⟨entryName, "Oi", buttons⟩) {}
    [.act (.text "Olá"), .act (.press handoffTarget), .act (.text "Maria"), .reload .empty]
  have hawaiting : session.phase.isAwaiting = false := by decide +kernel
  have hbutton : (⟨"Preços", "precos"⟩, 2) ∈ buttons.zipIdx 1 := by decide
  obtain ⟨turn, hlast⟩ : ∃ turn, session.OffersLast turn buttons :=
    shownButtons?_eq_some_iff.mp (by decide +kernel)
  obtain ⟨hrows, hnumbers, -⟩ := hshown turn buttons hlast
  refine ⟨⟨turn, hlast, ?_⟩, hnumbers hawaiting _ 2 hbutton (by decide), ?_⟩
  · rw [hrows]
    exact List.mem_append_right _ (List.mem_map_of_mem hbutton)
  · have hwrites : Text.Writes "+02".toList 2 := Text.writes_iff.mpr ⟨rfl, rfl⟩
    exact ((hlines "+02").2.1 "precos").mpr
      ⟨hawaiting, turn, buttons, hlast, 2, hwrites, by decide, by decide, rfl⟩

end Session

end ChatFlow
