import ChatFlow.Proofs.Json.Program
import ChatFlow.Proofs.Session.Entering

/-!
# Names of nodes and the names they are filed under

A session finds a node under the name it is filed under and then shows it by the
name inside.  The two are the same in the programs of sources, but not in every
program that is read from JSON, so a session over such a program may show a flow
that the program lacks.  The flows that can be shown without a reload are told
by the program: they are the names inside the nodes that presses find.
-/

namespace ChatFlow.Session

/-- The flow that is shown is found by a press. -/
def ShowsFound (session : Session) : Prop :=
  ∀ flow, session.phase.flow? = some flow → session.program.Finds flow

theorem showsFound_start (program : Program) (options : Options) :
    (start program options).ShowsFound := by
  intro flow hflow
  rw [(program_start program options).1]
  exact finds_of_flow?_start hflow

theorem ShowsFound.act {session : Session} (hshows : session.ShowsFound) (intent : Intent) :
    (session.next (.act intent)).ShowsFound := by
  intro flow hflow
  rw [program_next_act]
  exact (flow?_next_act hflow).elim (hshows flow) id

theorem ShowsFound.run {session : Session} (hshows : session.ShowsFound)
    (intents : List Intent) : (session.run (intents.map .act)).ShowsFound := by
  induction intents generalizing session with
  | nil => exact hshows
  | cons intent intents ih => exact ih (hshows.act intent)

/-- Without a reload, sessions show what presses find, and nothing else. -/
theorem exists_run_shows_iff (program : Program) (options : Options) (flow : String) :
    (∃ intents : List Intent,
        ((start program options).run (intents.map .act)).phase.flow? = some flow) ↔
      program.Finds flow := by
  have hprogram := (program_start program options).1
  constructor
  · rintro ⟨intents, hflow⟩
    have hfinds := (showsFound_start program options).run intents flow hflow
    rwa [program_run_acts, hprogram] at hfinds
  · rintro ⟨name, node, hname, hnode, rfl⟩
    refine ⟨[.press name], ?_⟩
    have hpress := press_of_get? hname (hprogram.symm ▸ hnode)
    change ((start program options).press name).phase.flow? = some node.name
    rw [hpress]
    rfl

/-- A session over a program that is read from JSON only shows flows of the
program, whatever the user does, if and only if the program has a flow for the
name inside each of its nodes, but for one filed under the handoff target. -/
theorem cached_runs_show_filed_iff {text : String} {options : Options} {session : Session}
    (hcached : (Json.read Program.ofJson text).map (start · options) = .ok session) :
    (∀ intents : List Intent, (session.run (intents.map .act)).ShowsFiled) ↔
      ∀ name node, name ≠ handoffTarget → session.program.get? name = some node →
        session.program.contains node.name = true := by
  obtain ⟨program, rfl⟩ : ∃ program, start program options = session := by
    cases hread : Json.read Program.ofJson text with
    | error fault => simp [hread, Except.map] at hcached
    | ok program => exact ⟨program, by simpa [hread, Except.map] using hcached⟩
  rw [(program_start program options).1]
  constructor
  · intro hfiled name node hname hnode
    obtain ⟨intents, hflow⟩ :=
      (exists_run_shows_iff program options node.name).mpr ⟨name, node, hname, hnode, rfl⟩
    have hcontains := hfiled intents node.name hflow
    rwa [program_run_acts, (program_start program options).1] at hcontains
  · intro hnames intents flow hflow
    obtain ⟨name, node, hname, hnode, rfl⟩ :=
      (exists_run_shows_iff program options flow).mp ⟨intents, hflow⟩
    rw [program_run_acts, (program_start program options).1]
    exact hnames name node hname hnode

/-- No press shows the node that is filed under the handoff target here, so the
name inside it need not be a flow. -/
theorem cached_runs_show_filed_iff_handoff :
    let text := "\x7b\"flows\":\x7b" ++
      "\"atendimento_humano\":\x7b\"name\":\"humano\",\"message\":\"Já vem\",\"buttons\":[]\x7d," ++
      "\"inicio\":\x7b\"name\":\"inicio\",\"message\":\"Oi\",\"buttons\":[]\x7d\x7d\x7d"
    ∃ session : Session, (Json.read Program.ofJson text).map (start · {}) = .ok session ∧
      session.program.contains "humano" = false ∧
      ∀ intents : List Intent, (session.run (intents.map .act)).ShowsFiled := by
  intro text
  let entries := [(handoffTarget, Node.mk "humano" "Já vem" []), (entryName, ⟨entryName, "Oi", []⟩)]
  let program : Program := ⟨NameMap.ofList entries⟩
  let session := start program {}
  have hread : (Json.read Program.ofJson text).map (start · {}) = .ok session := by
    rw [show text = program.toJson.render by decide +kernel, Program.readsBack.read_render]
    rfl
  have hentries : session.program.flows.entries = entries := by decide +kernel
  refine ⟨session, hread, by decide +kernel, (cached_runs_show_filed_iff hread).mpr ?_⟩
  intro name node hname hnode
  have hmem : (name, node) ∈ entries := hentries ▸ NameMap.get?_eq_some_iff.mp hnode
  simp only [entries, List.mem_cons, Prod.mk.injEq, List.not_mem_nil, or_false] at hmem
  rcases hmem with ⟨rfl, rfl⟩ | ⟨rfl, rfl⟩
  · exact absurd rfl hname
  · decide +kernel

/-- Not every session over a program that is read from JSON only shows flows of
the program: a node is filed under another name than its own here. -/
theorem exists_cached_flow_missing :
    ¬ ∀ (text : String) (program : Program) (options : Options) (intents : List Intent),
      Json.read Program.ofJson text = .ok program →
        ((start program options).run (intents.map .act)).ShowsFiled := by
  intro hall
  let text := "\x7b\"flows\":\x7b" ++
    "\"inicio\":\x7b\"name\":\"inicio\",\"message\":\"Oi\"," ++
      "\"buttons\":[\x7b\"label\":\"Planos\",\"targetFlow\":\"planos\"\x7d]\x7d," ++
    "\"planos\":\x7b\"name\":\"plans\",\"message\":\"Temos dois.\",\"buttons\":[]\x7d\x7d\x7d"
  let program : Program := ⟨NameMap.ofList
    [(entryName, ⟨entryName, "Oi", [⟨"Planos", "planos"⟩]⟩),
      ("planos", ⟨"plans", "Temos dois.", []⟩)]⟩
  have hread : Json.read Program.ofJson text = .ok program := by
    rw [show text = program.toJson.render by decide +kernel, Program.readsBack.read_render]
  have hfiled := hall text program {} [.press "planos"] hread "plans" (by decide +kernel)
  revert hfiled
  decide +kernel

end ChatFlow.Session
