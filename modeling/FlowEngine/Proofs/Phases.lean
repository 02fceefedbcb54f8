import Mathlib
import FlowEngine.Proofs.Run.Answer
import FlowEngine.Proofs.Workflow.Refused

/-!
# Phases of errors

A document is refused with an error of its text or of its workflow. Once it is
accepted its start node is known, so whatever fails from there on is an error of the
run: of the preparation, of a node, of a routing or of the time limit
(`executeDocument_phase`).
-/

namespace FlowEngine.Engine

/-! ## Preparation -/

section
variable {w : Workflow} {err : FlowError}

theorem prepareNode_phase {env : Environment} {n : Node} (h : prepareNode w env n = .error err) : err.phase = .run := by
  simp only [prepareNode] at h
  split at h
  · cases h
    rfl
  · cases h

theorem parameterDefault_phase {store : Store} {c : Context} {default : Document.Value}
    (h : parameterDefault w store c default = .error err) : err.phase = .run := by
  simp only [parameterDefault] at h
  split at h
  · cases h
    rfl
  split at h
  · cases h
  · cases h
    rfl

theorem bindParameters_phase {store : Store} : ∀ {declared : List (String × Document.Value)} {given : Entries Json}
    {c : Context}, bindParameters w store declared given c = .error err → err.phase = .run
  | (name, default) :: rest, given, c, h => by
    simp only [bindParameters] at h
    split at h
    · exact bindParameters_phase h
    · rcases bind_eq_error.mp h with hdefault | ⟨v, -, h⟩
      · exact parameterDefault_phase hdefault
      · exact bindParameters_phase h

theorem prepare_phase {scope : List String} {store : Store} {given : Entries Json} {c : Context}
    (h : prepare w scope store given c = .error err) : err.phase = .run := by
  rcases bind_eq_error.mp h with hnodes | ⟨nodes, -, h⟩
  · obtain ⟨n, -, hn⟩ := mapM_eq_error hnodes
    exact prepareNode_phase hn
  rcases bind_eq_error.mp h with hparameters | ⟨c', -, h⟩
  · exact bindParameters_phase hparameters
  · cases h

end

/-! ## Runs -/

variable {e : Engine} {flow : CompiledWorkflow} {root : String}

theorem Launched.failure_phase {p : Plan} {s : RunState} {events : List RunState.Event} (h : e.Launched flow root p s)
    {err : FlowError} (herr : (respond p (s.run p events)).failure = some err) : err.phase = .run := by
  rw [h.failure_eq events, Option.or_eq_some_iff] at herr
  rcases herr with hmisrouted | ⟨-, hother⟩
  · obtain ⟨c, -, hc⟩ := List.exists_of_findSome?_eq_some hmisrouted
    obtain ⟨selected, rfl⟩ := Plan.misroute?_invalidRoute hc
    rfl
  rcases Option.or_eq_some_iff.mp hother with hexpired | ⟨-, hfailed⟩
  · split at hexpired
    · cases hexpired
      rfl
    · cases hexpired
  · obtain ⟨⟨id, f⟩, hmem, hf⟩ := List.exists_of_findSome?_eq_some hfailed
    obtain ⟨n, -, htells⟩ := h.exists_told hmem
    cases f with
    | succeeded r => cases hf
    | failed err' =>
      cases hf
      exact htells.2.2.1

theorem Answers.failure_phase {done : List (String × Finished)} {r : Response} (h : e.Answers flow root done r)
    (hroot : root ∈ flow.workflow.nodeIds) {err : FlowError} (herr : r.failure = some err) : err.phase = .run := by
  cases h with
  | unknown hnot => exact absurd hroot hnot
  | unprepared hprepare =>
    cases herr
    exact prepare_phase hprepare
  | ended h hdone => exact h.failure_phase herr

/-- A document is refused just with an error of its text or of its workflow, and what runs of an
accepted one report, in whatever order their nodes complete, are errors of the run. -/
theorem executeDocument_phase (e : Engine) (cal : Calendar) (text : String) (input : Invocation) (host : Host)
    (store : Store) :
    (∀ err, e.executeDocument cal text input host store = .error err ↔
      (Workflow.parse text = .error err ∧ err.phase = .parse) ∨
        ∃ w, Workflow.parse text = .ok w ∧ w.validate cal = .error err ∧ err.phase = .validation) ∧
    (∀ c, e.executeDocument cal text input host store = .ok (.ok c) →
      ∀ err, c.response.failure = some err → err.phase = .run) ∧
    ∀ flow, CompiledWorkflow.ofDocument cal text = .ok flow → ∀ done r, e.Answers flow flow.workflow.startNode done r →
      ∀ err, r.failure = some err → err.phase = .run := by
  have hanswers : ∀ flow, CompiledWorkflow.ofDocument cal text = .ok flow → ∀ done r,
      e.Answers flow flow.workflow.startNode done r → ∀ err, r.failure = some err → err.phase = .run :=
    fun flow htext done r h err => h.failure_phase (CompiledWorkflow.ofDocument_checked htext).start
  refine ⟨fun err => ?_, fun c h => ?_, hanswers⟩
  · rw [executeDocument, map_eq_error, Workflow.ofDocument_eq_error]
  · obtain ⟨flow, htext, hrun⟩ := map_eq_ok.mp h
    obtain ⟨done, hdone⟩ := Answers.of_executeFrom (CompiledWorkflow.ofDocument_checked htext).ids hrun
    exact hanswers flow htext done c.response hdone

set_option maxRecDepth 20000 in
theorem executeDocument_phase_decision : ∃ c err,
    Decision.engine.executeDocument .standard Decision.text .empty .blank .empty = .ok (.ok c) ∧ c.response.failure = some err ∧
      err.phase = .run := by
  have hfails : (Decision.engine.executeDocument .standard Decision.text .empty .blank .empty).toOption.any (fun run =>
      run.toOption.any fun c => c.response.failure.isSome) = true := by decide +kernel
  obtain ⟨-, hphase, -⟩ := Decision.engine.executeDocument_phase .standard Decision.text .empty .blank .empty
  cases hrun : Decision.engine.executeDocument .standard Decision.text .empty .blank .empty with
  | error err => rw [hrun] at hfails; cases hfails
  | ok run =>
    cases run with
    | error fault => rw [hrun] at hfails; cases hfails
    | ok c =>
      rw [hrun] at hfails
      obtain ⟨err, herr⟩ := Option.isSome_iff_exists.mp hfails
      exact ⟨c, err, rfl, herr, hphase c hrun err herr⟩

end FlowEngine.Engine
