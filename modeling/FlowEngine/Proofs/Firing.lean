import FlowEngine.Proofs.Catalog
import FlowEngine.Proofs.Phases
import FlowEngine.Proofs.Workflow.Valid
import FlowEngine.Timers

/-!
# Firings

A firing looks at the catalog as it is by then. If the workflow is there and has the
timer, the firing is a run of that version from the handler, which validation has made
sure of; the run is not refused, unless its slots or its time limit keep it from
starting, and does not leave what the handler reaches (`Timers.fire_current`).
-/

namespace FlowEngine

/-- The root of the run was known, and no node is named that it does not reach. -/
structure Response.Confined (r : Response) (g : Graph) (root : String) : Prop where
  accepted : ∀ target, r.failure ≠ some (.danglingReference "root" target)
  results : ∀ id ∈ r.results.order, g.Reaches root id
  skipped : ∀ id ∈ r.skipped, g.Reaches root id
  cancelled : ∀ id ∈ r.cancelled, g.Reaches root id

namespace Engine

variable {e : Engine} {flow : CompiledWorkflow} {root : String}

theorem not_dangling {failure : Option FlowError} (h : ∀ err, failure = some err → err.phase = .run) (target : String) :
    failure ≠ some (.danglingReference "root" target) := by
  intro he
  have hphase := h _ he
  cases hphase

theorem rejected_confined (name : String) {err : FlowError} (h : err.phase = .run) (g : Graph) (root : String) :
    (Response.rejected name err).Confined g root where
  accepted := not_dangling fun _ he => Option.some.inj he ▸ h
  results := fun id hid => by cases hid
  skipped := fun id hid => by cases hid
  cancelled := fun id hid => by cases hid

theorem Launched.confined {p : Plan} {s : RunState} (h : e.Launched flow root p s) (events : List RunState.Event) :
    (respond p (s.run p events)).Confined flow.graph root := by
  have hsound := h.sound.run h.maintains events
  have hscope {id : String} {t : NodeState} (ht : (s.run p events).readiness.state.get? id = some t) :
      flow.graph.Reaches root id :=
    (Graph.mem_reachableFrom_iff.mp (h.maintains.states _ hsound.balanced id t ht)).2
  constructor
  · exact not_dangling fun err herr => h.failure_phase herr
  · intro id hid
    rcases (hsound.recorded_iff id).mp hid with ht | ht | hfinished
    · exact hscope ht
    · exact hscope ht
    · exact hscope (hsound.started id (by simp [RunState.underWay, hfinished]))
  · intro id hid
    exact hscope ((hsound.balanced.skipped_iff id).mp hid)
  · intro id hid
    rcases Readiness.isOpen_iff.mp ((hsound.mem_cancelled_iff h.maintains h.scope_known id).mp hid) with ht | ht
    · exact hscope ht
    · exact hscope ht

theorem Answers.confined {done : List (String × Finished)} {r : Response} (h : e.Answers flow root done r)
    (hroot : root ∈ flow.workflow.nodeIds) : r.Confined flow.graph root := by
  cases h with
  | unknown hnot => exact absurd hroot hnot
  | unprepared hprepare => exact rejected_confined _ (prepare_phase hprepare) _ _
  | ended h hdone => exact h.confined _

section
variable (hroot : root ∈ flow.workflow.nodeIds) (input : Invocation) (host : Host) (store : Store)
include hroot

theorem executeFrom_confined {c : Completion} (h : e.executeFrom flow root input host store = .ok c) :
    c.response.Confined flow.graph root := by
  rcases Launched.executeFrom_eq e flow root input host store with
    ⟨hnot, -⟩ | ⟨-, ⟨err, hprepare, he⟩ | ⟨nodes, c', hprepare, he⟩⟩
  · exact absurd hroot hnot
  · rw [he] at h
    cases h
    exact rejected_confined _ (prepare_phase hprepare) _ _
  · rw [he] at h
    split at h
    · cases h
    · obtain ⟨events, hcomplete⟩ := e.complete_events (e.plan flow.workflow nodes host)
        (start flow (flow.graph.reachableFrom root) root c' store)
      rw [hcomplete] at h
      cases h
      exact (Launched.of_prepare hroot hprepare host).confined events

theorem executeFrom_eq_error {fault : StartFault} : e.executeFrom flow root input host store = .error fault ↔
    e.startFault? flow.workflow host = some fault ∧ ∃ prepared, prepare flow.workflow (flow.graph.reachableFrom root) store
      input.parameters (e.blankContext flow.workflow input) = .ok prepared := by
  rcases Launched.executeFrom_eq e flow root input host store with
    ⟨hnot, -⟩ | ⟨-, ⟨err, hprepare, he⟩ | ⟨nodes, c', hprepare, he⟩⟩
  · exact absurd hroot hnot
  · simp [he, hprepare]
  · rw [he]
    cases e.startFault? flow.workflow host <;> simp [hprepare]

end

end Engine

/-! ## Timers -/

theorem CompiledWorkflow.exists_handler (flow : CompiledWorkflow) {timer : String} {n : Node}
    (hn : flow.workflow.node? timer = some n) (htimed : n.IsTimed) :
    ∃ handler, n.handler = some handler ∧ handler ∈ flow.roots ∧ handler ∈ flow.workflow.nodeIds := by
  have hmem : n ∈ flow.workflow.nodes := List.mem_of_find?_eq_some hn
  obtain ⟨cal, hvalid⟩ := flow.valid
  obtain ⟨-, -, hnodes, -⟩ := Workflow.validate_eq_ok.mp hvalid
  obtain ⟨hknown, hfires⟩ := Workflow.checkNode_eq_ok.mp (Workflow.checkNodes_eq_ok.mp hnodes n hmem)
  obtain ⟨handler, hhandler⟩ := (hfires htimed).handler
  exact ⟨handler, hhandler, Workflow.mem_roots.mpr (.inr ⟨n, hmem, htimed, hhandler⟩), hknown handler hhandler⟩

namespace Timers

theorem target?_eq_some {c : Catalog} {workflow timer handler : String} {flow : CompiledWorkflow} {n : Node}
    (hflow : c.get? workflow = some flow) (hn : flow.workflow.node? timer = some n) (htimed : n.IsTimed)
    (hhandler : n.handler = some handler) : target? c workflow timer = some (flow, n, handler) := by
  simp [target?, hflow, hn, Node.isTimer_iff.mpr htimed, hhandler]

theorem exists_of_target? {c : Catalog} {workflow timer : String} {target : CompiledWorkflow × Node × String}
    (h : target? c workflow timer = some target) :
    ∃ flow n, c.get? workflow = some flow ∧ flow.workflow.node? timer = some n ∧ n.IsTimed := by
  obtain ⟨flow, hflow, h⟩ := Option.bind_eq_some_iff.mp h
  obtain ⟨n, hn, h⟩ := Option.bind_eq_some_iff.mp h
  split at h
  · exact ⟨flow, n, hflow, hn, Node.isTimer_iff.mp ‹_›⟩
  · cases h

/-- After any changes to the catalog a firing fails just if there is no such timer in the
current version of the workflow. Otherwise it runs that version from the handler of the timer,
and only slots or a time limit out of range keep the run from starting. In whatever order its
nodes complete, the run is not refused for its root and stays within what the root reaches. -/
theorem fire_current (e : Engine) (changes : List Catalog.Change) (workflow timer : String) (host : Host)
    (store : Store) :
    (fire (.replay changes) e workflow timer host store = .error ⟨workflow, timer⟩ ↔
      ¬∃ flow n, Catalog.current? changes workflow = some flow ∧ flow.workflow.node? timer = some n ∧ n.IsTimed) ∧
    ∀ flow n, Catalog.current? changes workflow = some flow → flow.workflow.node? timer = some n → n.IsTimed →
      ∃ handler input, n.handler = some handler ∧ handler ∈ flow.roots ∧
        input = { Invocation.empty with request := trigger n host.time } ∧
        fire (.replay changes) e workflow timer host store = .ok (e.executeFrom flow handler input host store) ∧
        (∀ fault, e.executeFrom flow handler input host store = .error fault ↔
          e.startFault? flow.workflow host = some fault ∧ ∃ prepared, Engine.prepare flow.workflow
            (flow.graph.reachableFrom handler) store input.parameters (e.blankContext flow.workflow input) = .ok prepared) ∧
        (∀ c, e.executeFrom flow handler input host store = .ok c → c.response.Confined flow.graph handler) ∧
        ∀ done r, e.Answers flow handler done r → r.Confined flow.graph handler := by
  have hrun (flow : CompiledWorkflow) (n : Node) (hflow : Catalog.current? changes workflow = some flow)
      (hn : flow.workflow.node? timer = some n) (htimed : n.IsTimed) :
      ∃ handler, (n.handler = some handler ∧ handler ∈ flow.roots ∧ handler ∈ flow.workflow.nodeIds) ∧
        fire (.replay changes) e workflow timer host store = .ok (e.executeFrom flow handler
          { Invocation.empty with request := trigger n host.time } host store) := by
    obtain ⟨handler, hhandler⟩ := flow.exists_handler hn htimed
    refine ⟨handler, hhandler, ?_⟩
    rw [fire, target?_eq_some (by rwa [Catalog.get?_replay]) hn htimed hhandler.1]
  refine ⟨⟨?_, ?_⟩, ?_⟩
  · rintro herror ⟨flow, n, hflow, hn, htimed⟩
    obtain ⟨handler, -, hfire⟩ := hrun flow n hflow hn htimed
    rw [hfire] at herror
    cases herror
  · intro hnone
    cases htarget : target? (.replay changes) workflow timer with
    | none => rw [fire, htarget]
    | some target =>
      obtain ⟨flow, n, hflow, hn⟩ := exists_of_target? htarget
      rw [Catalog.get?_replay] at hflow
      exact absurd ⟨flow, n, hflow, hn⟩ hnone
  · intro flow n hflow hn htimed
    obtain ⟨handler, ⟨hhandler, hroot, hknown⟩, hfire⟩ := hrun flow n hflow hn htimed
    exact ⟨handler, _, hhandler, hroot, rfl, hfire, fun fault => Engine.executeFrom_eq_error hknown _ host store,
      fun c hc => Engine.executeFrom_confined hknown _ host store hc, fun done r hr => hr.confined hknown⟩

end Timers

/-! ## An alarm -/

namespace Alarm

def workflow (slots : Nat) : Workflow :=
  { Workflow.empty "alarm" "ring" with
    settings := { Settings.default with maxConcurrency := some slots }
    nodes := [⟨"ring", "set", "ring", [("value", .string "up")], none⟩,
      ⟨"clock", "timer", "clock", [("schedule", .string "0 0 7 * * *")], some "ring"⟩] }

set_option maxRecDepth 20000 in
theorem validate_workflow (slots : Nat) : (workflow slots).validate .standard = .ok () := by
  have h : (workflow 0).validate .standard = .ok () := eq_ok_of_toOption (by decide)
  exact h

def flow (slots : Nat) : CompiledWorkflow := ⟨workflow slots, _, validate_workflow slots⟩

def engine : Engine := ⟨Builtin.registry, .standalone, []⟩

def changes (slots : Nat) : List Catalog.Change := [.insert (flow 1), .remove "night", .insert (flow slots)]

theorem current (slots : Nat) : Catalog.current? (changes slots) "alarm" = some (flow slots) := by
  simp [Catalog.current?, changes, Catalog.Change.name, Catalog.Change.flow?, CompiledWorkflow.name, flow, workflow, Workflow.empty]

theorem exists_timer (slots : Nat) : ∃ n, (flow slots).workflow.node? "clock" = some n ∧ n.IsTimed ∧
    n.handler = some "ring" := ⟨_, rfl, .inl rfl, rfl⟩

theorem prepared (slots : Nat) (request : Json) : ∃ prepared, Engine.prepare (workflow slots)
    ((flow slots).graph.reachableFrom "ring") .empty [] (engine.blankContext (workflow slots) ⟨[], request, []⟩) = .ok prepared := by
  have hscope : (flow slots).graph.reachableFrom "ring" = ["ring"] := by
    have h : (flow 0).graph.reachableFrom "ring" = ["ring"] := by decide
    exact h
  rw [hscope]
  exact ⟨_, rfl⟩

theorem fire_eq_error {slots : Nat} (h : Engine.maxSlots < slots) :
    Timers.fire (.replay (changes slots)) engine "alarm" "clock" .blank .empty = .ok (.error (.tooManySlots slots)) := by
  obtain ⟨n, hn, htimed, hring⟩ := exists_timer slots
  have hcurrent := current slots
  rw [← Catalog.get?_replay] at hcurrent
  have hslots : engine.slots (workflow slots) = slots := Nat.max_eq_right (Nat.zero_lt_of_lt h)
  have hfault : engine.startFault? (workflow slots) .blank = some (.tooManySlots slots) := by
    rw [Engine.startFault?, hslots, if_pos h]
  rw [Timers.fire, Timers.target?_eq_some hcurrent hn htimed hring]
  have hknown : "ring" ∈ (flow slots).workflow.nodeIds := List.mem_cons_self
  exact congrArg _ ((Engine.executeFrom_eq_error hknown _ _ _).mpr ⟨hfault, prepared slots _⟩)

/-- A timer whose workflow asks for more slots than can be handed out is there, and yet firing it
brings about neither a refusal nor a response. -/
theorem not_run : Catalog.current? (changes (Engine.maxSlots + 1)) "alarm" = some (flow (Engine.maxSlots + 1)) ∧
    (∃ n, (flow (Engine.maxSlots + 1)).workflow.node? "clock" = some n ∧ n.IsTimed ∧ n.handler = some "ring") ∧
    Timers.fire (.replay (changes (Engine.maxSlots + 1))) engine "alarm" "clock" .blank .empty
      = .ok (.error (.tooManySlots (Engine.maxSlots + 1))) :=
  ⟨current _, exists_timer _, fire_eq_error (Nat.lt_succ_self _)⟩

end Alarm

theorem Timers.fire_current_alarm : ∃ n, Catalog.current? (Alarm.changes 2) "alarm" = some (Alarm.flow 2) ∧
    (Alarm.flow 2).workflow.node? "clock" = some n ∧ n.IsTimed ∧
    ∃ c, fire (.replay (Alarm.changes 2)) Alarm.engine "alarm" "clock" .blank .empty = .ok (.ok c) ∧
      c.response.Confined (Alarm.flow 2).graph "ring" ∧ c.response.results.order = ["ring"] := by
  obtain ⟨n, hn, htimed, hring⟩ := Alarm.exists_timer 2
  obtain ⟨-, hfire⟩ := fire_current Alarm.engine (Alarm.changes 2) "alarm" "clock" .blank .empty
  obtain ⟨handler, input, hhandler, -, rfl, hrun, -, hconfined, -⟩ := hfire _ n (Alarm.current 2) hn htimed
  rw [hring] at hhandler
  cases hhandler
  refine ⟨n, Alarm.current 2, hn, htimed, ?_⟩
  have hends : ((Alarm.engine.executeFrom (Alarm.flow 2) "ring" { Invocation.empty with request := trigger n Host.blank.time }
      .blank .empty).toOption.any fun c => c.response.results.order == ["ring"]) = true := by
    cases hn
    decide
  cases hc : Alarm.engine.executeFrom (Alarm.flow 2) "ring" { Invocation.empty with request := trigger n Host.blank.time }
      .blank .empty with
  | error fault => rw [hc] at hends; cases hends
  | ok c =>
    rw [hc] at hends hrun
    exact ⟨c, hrun, hconfined c hc, beq_iff_eq.mp hends⟩

end FlowEngine
