import ChatFlow.Preview
import ChatFlow.Proofs.Session.Events
import Mathlib.Data.Set.Function

/-!
# Edits of a preview

A preview compiles an edited source only if the digest of the source is new.
It is compared here with one that compiles every time.  As long as different
sources have different digests the two agree at every point, whatever is done
to the session between the edits, and both are in step with the latest source.
-/

namespace ChatFlow

/-- What can be done to the session of a preview: an intent is taken, or one of
the operations behind the intents is called. -/
inductive Session.Operation
  | act (intent : Intent)
  | press (target : String)
  | submit (text : String)
  | restart
deriving DecidableEq, Repr

namespace Session

/-- The session after an operation, whether it is taken or refused. -/
def operate (session : Session) : Operation → Session
  | .act intent => session.next (.act intent)
  | .press target => session.press target
  | .submit text => (session.submit text).1
  | .restart => session.restart

def Operation.intent : Operation → Intent
  | .act intent => intent
  | .press target => .press target
  | .submit text => .text text
  | .restart => .restart

/-- Each operation does what its intent does. -/
theorem operate_eq_next (session : Session) (operation : Operation) :
    session.operate operation = session.next (.act operation.intent) := by
  cases operation with
  | act intent => rfl
  | press target => exact (session.next_press target).symm
  | submit text => exact (session.next_text text).symm
  | restart => rfl

end Session

namespace Preview

open Source (Compilation)

inductive Action
  | edit (source : String)
  | operate (operation : Session.Operation)
deriving DecidableEq, Repr

/-- The preview after an edit that is compiled whether the source changed or not. -/
def recompile (preview : Preview) (source : String) : Preview :=
  let compilation := Compilation.ofSource source
  { version := Text.Sha256.digest source
    compilation
    findings := compilation.findings
    session := preview.session.reload compilation.program }

/-- The preview after an action, with the given way to edit. -/
def next (change : Preview → String → Preview) (preview : Preview) : Action → Preview
  | .edit source => change preview source
  | .operate operation => { preview with session := preview.session.operate operation }

def run (change : Preview → String → Preview) (preview : Preview) (actions : List Action) :
    Preview :=
  actions.foldl (next change) preview

theorem run_nil (change : Preview → String → Preview) (preview : Preview) :
    preview.run change [] = preview := rfl

theorem run_cons (change : Preview → String → Preview) (preview : Preview) (action : Action)
    (actions : List Action) :
    preview.run change (action :: actions) = (preview.next change action).run change actions :=
  rfl

def Action.source? : Action → Option String
  | .edit source => some source
  | .operate _ => none

/-- The sources that the edits among the actions bring. -/
def edited (actions : List Action) : List String :=
  actions.filterMap Action.source?

/-- The source after the actions, which is the given one if none is an edit. -/
def latest (source : String) (actions : List Action) : String :=
  (edited actions).getLastD source

theorem latest_edit (source change : String) (actions : List Action) :
    latest source (.edit change :: actions) = latest change actions :=
  List.getLastD_cons ..

theorem latest_operate (source : String) (operation : Session.Operation)
    (actions : List Action) :
    latest source (.operate operation :: actions) = latest source actions := rfl

theorem latest_mem (source : String) (actions : List Action) :
    latest source actions ∈ source :: edited actions :=
  List.getLastD_mem_cons ..

/-- Everything that a preview keeps was made from the source. -/
structure InStep (preview : Preview) (source : String) : Prop where
  version : preview.version = Text.Sha256.digest source
  compilation : preview.compilation = Compilation.ofSource source
  findings : preview.findings = preview.compilation.findings
  program : preview.session.program = preview.compilation.program

theorem inStep_start (source : String) (options : Options) :
    (start source options).InStep source where
  version := rfl
  compilation := rfl
  findings := rfl
  program := (Session.program_start _ options).1

theorem inStep_recompile (preview : Preview) (source : String) :
    (preview.recompile source).InStep source where
  version := rfl
  compilation := rfl
  findings := rfl
  program := rfl

theorem conversation_edit (preview : Preview) (source : String) :
    (preview.edit source).session.conversation = preview.session.conversation := by
  unfold edit edit?
  dsimp only
  split <;> rfl

namespace InStep

variable {preview : Preview} {source : String}

theorem operate (hpreview : preview.InStep source) (operation : Session.Operation) :
    (preview.next edit (.operate operation)).InStep source where
  version := hpreview.version
  compilation := hpreview.compilation
  findings := hpreview.findings
  program := by
    have hprogram := preview.session.program_next_act operation.intent
    rw [← Session.operate_eq_next] at hprogram
    exact hprogram.trans hpreview.program

theorem isSome_edit?_iff (hpreview : preview.InStep source) {change : String}
    (hdigest : Text.Sha256.digest change = Text.Sha256.digest source → change = source) :
    (preview.edit? change).isSome = true ↔ change ≠ source := by
  unfold edit?
  dsimp only
  rw [hpreview.version]
  by_cases hsame : change = source
  · simp [hsame]
  · have hnew := mt hdigest hsame
    simp [hsame, hnew]

/-- Compiling a source that did not change leaves everything as it is. -/
theorem recompile_self (hpreview : preview.InStep source) :
    preview.recompile source = preview := by
  obtain ⟨version, compilation, findings, session⟩ := preview
  obtain ⟨hversion, hcompilation, hfindings, hprogram⟩ := hpreview
  dsimp only at hversion hcompilation hfindings hprogram
  subst hcompilation hfindings hversion
  have hsession : session.reload (Compilation.ofSource source).program = session := by
    rw [← hprogram]
    rfl
  unfold recompile
  dsimp only
  rw [hsession]

theorem edit_eq_recompile (hpreview : preview.InStep source) {change : String}
    (hdigest : Text.Sha256.digest change = Text.Sha256.digest source → change = source) :
    preview.edit change = preview.recompile change := by
  by_cases hsame : change = source
  · have hnone : preview.edit? change = none := by
      have hsome := hpreview.isSome_edit?_iff hdigest
      simpa [hsame] using hsome
    rw [edit, hnone, Option.getD_none, hsame, hpreview.recompile_self]
  · have hnew : ¬ Text.Sha256.digest change = preview.version := by
      rw [hpreview.version]
      exact mt hdigest hsame
    unfold edit edit?
    dsimp only
    rw [if_neg hnew]
    rfl

/-- The two ways to edit agree along a run, which ends in step with the latest
source. -/
theorem run (hpreview : preview.InStep source) {actions : List Action}
    (hdigest : Set.InjOn Text.Sha256.digest {text | text ∈ source :: edited actions}) :
    preview.run edit actions = preview.run recompile actions ∧
      (preview.run edit actions).InStep (latest source actions) := by
  induction actions generalizing preview source with
  | nil =>
      rw [run_nil, run_nil]
      exact ⟨rfl, hpreview⟩
  | cons action actions ih =>
      rw [run_cons, run_cons]
      cases action with
      | edit change =>
          have hedit : preview.edit change = preview.recompile change := by
            apply hpreview.edit_eq_recompile
            intro hcollision
            apply hdigest _ _ hcollision
            · simp [edited, Action.source?]
            · simp
          have hrest : Set.InjOn Text.Sha256.digest {text | text ∈ change :: edited actions} := by
            apply hdigest.mono
            intro text hmem
            exact List.mem_cons_of_mem source hmem
          rw [latest_edit, next, next, hedit]
          exact ih (preview.inStep_recompile change) hrest
      | operate operation =>
          rw [latest_operate]
          exact ih (hpreview.operate operation) hdigest

end InStep

/-- Unless two of the sources have the same digest, a preview agrees at every
point of a run with one that compiles at every edit, and what it keeps was made
from the latest source.  An edit is taken for one if and only if it changes the
source, and it leaves the conversation as it is. -/
theorem run_edit_eq_run_recompile (source : String) (options : Options)
    (actions : List Action)
    (hdigest : Set.InjOn Text.Sha256.digest {text | text ∈ source :: edited actions}) :
    ∀ before after, before ++ after = actions →
      let preview := (start source options).run edit before
      preview = (start source options).run recompile before ∧
        preview.version = Text.Sha256.digest (latest source before) ∧
        preview.compilation = Compilation.ofSource (latest source before) ∧
        preview.diagnostics = preview.compilation.diagnostics ∧
        preview.session.program = preview.compilation.program ∧
        ∀ change, after.head? = some (.edit change) →
          ((preview.edit? change).isSome = true ↔ change ≠ latest source before) ∧
            (preview.edit change).session.conversation = preview.session.conversation := by
  rintro before after rfl preview
  have hedited : edited (before ++ after) = edited before ++ edited after :=
    List.filterMap_append
  have hmem {text : String} (htext : text ∈ source :: edited before) :
      text ∈ source :: edited (before ++ after) := by
    rw [hedited]
    exact List.mem_append_left (edited after) htext
  obtain ⟨hsame, hstep⟩ := (inStep_start source options).run (hdigest.mono fun _ => hmem)
  refine ⟨hsame, hstep.version, hstep.compilation, ?_, hstep.program, ?_⟩
  · exact congrArg (List.map Finding.diagnostic) hstep.findings
  · intro change hhead
    refine ⟨?_, preview.conversation_edit change⟩
    apply hstep.isSome_edit?_iff
    intro hcollision
    apply hdigest _ (hmem (latest_mem source before)) hcollision
    obtain ⟨rest, rfl⟩ : ∃ rest, after = .edit change :: rest := by
      cases after with
      | nil => simp at hhead
      | cons action rest => exact ⟨rest, by simpa using hhead⟩
    rw [Set.mem_ofPred_eq, hedited]
    simp [edited, Action.source?]

/-- An edit that is taken back leads to the version before it. -/
theorem run_edit_eq_run_recompile_taken_back :
    let draft := "inicio:\nmensagem:\n\"Oi\"\n"
    let other := "inicio:\nmensagem:\n\"Olá\"\n"
    let preview := (start draft {}).run edit
      [.edit other, .operate (.press entryName), .edit draft]
    preview = (start draft {}).run recompile
        [.edit other, .operate (.press entryName), .edit draft] ∧
      preview.version = Text.Sha256.digest draft := by
  intro draft other preview
  have hdistinct : Text.Sha256.digest draft ≠ Text.Sha256.digest other := by decide +kernel
  have hdigest : Set.InjOn Text.Sha256.digest {text | text ∈ draft ::
      edited [.edit other, .operate (.press entryName), .edit draft]} := by
    have hsources : ∀ text ∈ [draft, other, draft], text = draft ∨ text = other := by simp
    intro first hfirst second hsecond hsame
    rcases hsources first hfirst with rfl | rfl
    · rcases hsources second hsecond with rfl | rfl
      · rfl
      · exact absurd hsame hdistinct
    · rcases hsources second hsecond with rfl | rfl
      · exact absurd hsame.symm hdistinct
      · rfl
  obtain ⟨hrun, hversion, -⟩ := run_edit_eq_run_recompile draft {} _ hdigest
    [.edit other, .operate (.press entryName), .edit draft] [] rfl
  exact ⟨hrun, hversion⟩

end Preview

end ChatFlow
