import ChatFlow.Proofs.Session.Log
import ChatFlow.Proofs.Text.Placeholder
import ChatFlow.Settings.Load

/-!
# Sessions with loaded settings

Wherever settings are loaded from, their window holds a turn and their
confirmation has a place for the name.  A session keeps the options it starts
with, so in a session with such options every name that is captured is said in
its confirmation, and the last turn is always visible.
-/

namespace ChatFlow.Settings

theorem usable_of_load {sources : Sources} {settings : Settings}
    (hload : load sources = .ok settings) :
    settings.options.window ≠ 0 ∧
      Text.hasPlaceholder settings.options.messages.captureConfirmation.toList = true :=
  defect?_eq_none_iff.mp (defect?_of_load hload)

/-- A usable confirmation says the name it confirms. -/
theorem infix_confirmation {messages : Messages}
    (hmark : Text.hasPlaceholder messages.captureConfirmation.toList = true) (name : String) :
    name.toList <:+: (messages.confirmation name).toList := by
  rw [Messages.confirmation, String.toList_ofList]
  exact Text.infix_fillIn name.toList hmark

/-- In every run with loaded settings, a text that is sent while a name is
awaited is refused as blank or said in the answer of the bot, and what is visible
of a log that has turns ends with the last of them. -/
theorem load_never_hides {sources : Sources} {settings : Settings}
    (hload : load sources = .ok settings) (program : Program) (events : List Event) :
    let session := (Session.start program settings.options).run events
    (session.phase.isAwaiting = true → ∀ text,
        Text.AllBlank text.toList ∧ session.act (.text text) = (session, .error .emptyText) ∨
          ∃ after reply,
            session.act (.text text) = (after, .ok [.user (Text.trimmed text), reply]) ∧
              reply.isBot = true ∧ (Text.trimmed text).toList <:+: reply.text.toList) ∧
      (session.turns ≠ [] →
        session.transcript.visible ≠ [] ∧
          session.transcript.visible.getLast? = session.turns.getLast?) := by
  intro session
  obtain ⟨hwindow, hmark⟩ := usable_of_load hload
  have hoptions : session.options = settings.options := by
    rw [Session.options_run, (Session.program_start program settings.options).2]
  have hlogged : session.WellLogged :=
    (Session.wellLogged_start program settings.options).run events
  rw [← hoptions] at hwindow hmark
  constructor
  · intro hawaiting text
    cases hempty : (Text.trimmed text).isEmpty with
    | true =>
        have hblank := (Text.isEmpty_trimmed_iff text).mp hempty
        exact Or.inl ⟨hblank, session.act_text_of_blank hblank⟩
    | false =>
        obtain ⟨prior?, hphase⟩ : ∃ prior?, session.phase = .awaiting prior? := by
          cases hphase : session.phase with
          | awaiting prior? => exact ⟨prior?, rfl⟩
          | _ => simp [hphase, Phase.isAwaiting] at hawaiting
        have hact := Session.act_text_of_awaiting hphase hempty
        exact Or.inr ⟨_, _, hact, rfl, infix_confirmation hmark _⟩
  · intro hsome
    have hlast : session.transcript.visible.getLast? = session.turns.getLast? :=
      Transcript.getLast?_visible (hlogged.window ▸ hwindow)
    refine ⟨fun hnone => ?_, hlast⟩
    rw [hnone, List.getLast?_nil] at hlast
    exact hsome (List.getLast?_eq_none_iff.mp hlast.symm)

/-- Settings in a format of their own and variables from a directory above: a name
that looks like a placeholder is said twice here, and the window holds one turn. -/
theorem load_never_hides_braces :
    let text := "messages:\n  capture_confirmation: \"{name}, {name}\"\n"
    let yaml : Format :=
      { extensions := ["yaml", "yml"]
        read? := fun found =>
          if found = text then
            some [("messages", .table [("capture_confirmation", .text "{name}, {name}")])]
          else none }
    let files : Files := ⟨fun path =>
      if path = "fluxo.yml" then .ok (.contents text.toUTF8)
      else if path = "../.env" then
        .ok (.contents "FLUXO_TRANSCRIPT__VISIBLE_WINDOW=1\n".toUTF8)
      else .error .missing⟩
    let sources : Sources :=
      { files
        formats := [.json, yaml, .toml]
        environment := [("HOME", "/")]
        dotenv? := Dotenv.find? files (Dotenv.paths 2) }
    ∃ settings, load sources = .ok settings ∧ settings.options.window = 1 ∧
      let session := (Session.start .empty settings.options).run
        [.act (.text "Oi"), .act (.press handoffTarget)]
      (∃ after reply, session.act (.text " {name} ") = (after, .ok [.user "{name}", reply]) ∧
        "{name}".toList <:+: reply.text.toList) ∧
        session.transcript.visible ≠ [] := by
  intro text yaml files sources
  let messages : Messages := { captureConfirmation := "{name}, {name}" }
  have hload : load sources = .ok { options := { messages, window := 1 } } := by decide +kernel
  refine ⟨_, hload, rfl, ?_⟩
  intro session
  obtain ⟨hsaid, hvisible⟩ :=
    load_never_hides hload .empty [.act (.text "Oi"), .act (.press handoffTarget)]
  have htrimmed : Text.trimmed " {name} " = "{name}" := by decide +kernel
  rcases hsaid (by decide +kernel) " {name} " with ⟨hblank, -⟩ | ⟨after, reply, hact, -, hinfix⟩
  · exact absurd (hblank 'n' (by decide)) (by decide)
  · rw [htrimmed] at hact hinfix
    exact ⟨⟨after, reply, hact, hinfix⟩, (hvisible (by decide +kernel)).1⟩

end ChatFlow.Settings
