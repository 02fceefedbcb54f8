import Mathlib
import FlowEngine.Proofs.Run.Prepared
import FlowEngine.Run.Builtin

/-!
# Nothing is lost or counted twice

A run that has come to its end accounts for each node that its root reaches in
exactly one place, and for no other node: among the results, the skipped or the
cancelled nodes (`response_count`). Without a cancellation none is cancelled.
-/

namespace FlowEngine

/-! ## Runs that ended -/

/-- A prepared run of a compiled document from one of its roots has come to its end, after
whatever events in whatever order. -/
structure Engine.Ended (e : Engine) (flow : CompiledWorkflow) (root : String) (p : Plan) (s : RunState) : Prop where
  compiled : ∃ cal text, CompiledWorkflow.ofDocument cal text = .ok flow
  rooted : root ∈ flow.roots
  run : ∃ store given c c' nodes host events, c.results = .empty ∧
    Engine.prepare flow.workflow (flow.graph.reachableFrom root) store given c = .ok (nodes, c') ∧
    p = e.plan flow.workflow nodes host ∧
    s = (Engine.start flow (flow.graph.reachableFrom root) root c' store).run p events
  done : s.isDone = true

namespace Engine.Ended

variable {e : Engine} {flow : CompiledWorkflow} {root : String} {p : Plan} {s : RunState}

theorem prepared (h : e.Ended flow root p s) : ∃ s₀ events, e.Prepared flow root p s₀ ∧ s = s₀.run p events := by
  obtain ⟨cal, text, htext⟩ := h.compiled
  have hw := CompiledWorkflow.ofDocument_checked htext
  obtain ⟨store, given, c, c', nodes, host, events, hempty, hprepare, hp, hs⟩ := h.run
  exact ⟨_, events, ⟨⟨cal, text, htext⟩, Workflow.roots_subset hw.handlers hw.start h.rooted, store, given, c, c', nodes, host,
    hempty, hprepare, hp, rfl⟩, hs⟩

theorem checked (h : e.Ended flow root p s) : flow.workflow.Checked := by
  obtain ⟨_, _, hp, -⟩ := h.prepared
  exact hp.checked

theorem workflow_eq (h : e.Ended flow root p s) : p.workflow = flow.workflow := by
  obtain ⟨_, _, hp, -⟩ := h.prepared
  exact hp.workflow_eq

theorem covers (h : e.Ended flow root p s) : p.Covers (flow.graph.reachableFrom root) := by
  obtain ⟨_, _, hp, -⟩ := h.prepared
  exact hp.covers

theorem sound (h : e.Ended flow root p s) : s.Sound (p.Balance (flow.graph.reachableFrom root)) p := by
  obtain ⟨_, events, hp, rfl⟩ := h.prepared
  exact (hp.sound h.rooted).run hp.covers.maintains events

theorem idle (h : e.Ended flow root p s) : s.line = [] ∧ s.active = [] ∧ s.finished = [] ∧
    (s.isCancelled = true ∨ s.readiness.ready = []) := RunState.isDone_iff.mp h.done

theorem of_executeFrom {cal : Calendar} {text : String} (htext : CompiledWorkflow.ofDocument cal text = .ok flow)
    (hroot : root ∈ flow.roots) {input : Invocation} {host : Host} {store : Store} {done : Completion}
    (h : e.executeFrom flow root input host store = .ok done) :
    (∃ err, done = ⟨.rejected flow.workflow.name err, store, 0⟩) ∨
      ∃ p s, e.Ended flow root p s ∧ done = ⟨respond p s, s.store, s.clock⟩ := by
  rcases Prepared.of_executeFrom htext h with hrejected | ⟨p, s, events, hp, hdone, hcomplete⟩
  · exact .inl hrejected
  · obtain ⟨store', given, c, c', nodes, host', hempty, hprepare, hplan, hs⟩ := hp.start
    exact .inr ⟨p, s.run p events, ⟨hp.compiled, hroot, ⟨store', given, c, c', nodes, host', events, hempty, hprepare,
      hplan, by rw [hs]⟩, hdone⟩, hcomplete⟩

theorem not_open (h : e.Ended flow root p s) (hrun : s.isCancelled = false) (id : String) :
    s.readiness.isOpen id = false := by
  have hstarted := h.sound.not_started h.done hrun
  have hready : s.readiness.ready = [] := h.idle.2.2.2.resolve_left (by simp [hrun])
  obtain ⟨order, horder, hsub⟩ := scope_ordered h.checked h.rooted
  rw [← Bool.not_eq_true, Readiness.isOpen_iff, not_or]
  refine ⟨?_, hstarted id⟩
  exact h.sound.balanced.not_pending h.covers.links horder hsub
    (fun p _ n => by rw [Workflow.mem_graph_successors h.checked.sources, h.workflow_eq]) hready hstarted id

theorem recorded_iff (h : e.Ended flow root p s) (id : String) : id ∈ s.context.results.order ↔
    s.readiness.state.get? id = some .succeeded ∨ s.readiness.state.get? id = some .failed := by
  rw [h.sound.recorded_iff id, h.idle.2.2.1]
  simp

theorem nodup_cancelled (h : e.Ended flow root p s) : (s.cancelled p).Nodup := by
  have hids := h.checked.ids
  rw [← h.workflow_eq] at hids
  exact hids.filter _

theorem mem_cancelled_iff (h : e.Ended flow root p s) (id : String) :
    id ∈ s.cancelled p ↔ s.readiness.isOpen id = true := by
  obtain ⟨_, _, hp, -⟩ := h.prepared
  exact h.sound.mem_cancelled_iff h.covers.maintains hp.scope_known id

/-- Each node that the root reaches is accounted for once, and no other node is; only a
cancelled run cancels nodes. -/
theorem response_count (h : e.Ended flow root p s) :
    (∀ id, (respond p s).results.order.count id + (respond p s).skipped.count id + (respond p s).cancelled.count id
      = if id ∈ flow.graph.reachableFrom root then 1 else 0) ∧
    (s.fatal = none → s.timedOut = false → (respond p s).cancelled = []) := by
  have hsound := h.sound
  constructor
  · intro id
    show s.context.results.order.count id + s.readiness.skipped.count id + (s.cancelled p).count id = _
    rw [hsound.orderOnce.count, hsound.balanced.skippedNodup.count, h.nodup_cancelled.count]
    simp only [h.recorded_iff, hsound.balanced.skipped_iff, h.mem_cancelled_iff, Readiness.isOpen_iff]
    by_cases hid : id ∈ flow.graph.reachableFrom root
    · obtain ⟨t, ht⟩ := Readiness.exists_state hsound.balanced hid
      cases t <;> simp [ht, hid]
    · have hnone : s.readiness.state.get? id = none := by
        by_contra hne
        obtain ⟨t, ht⟩ := Option.ne_none_iff_exists'.mp hne
        exact hid (Readiness.mem_scope_of_state hsound.balanced ht)
      simp [hnone, hid]
  · intro hfatal htime
    have hrun : s.isCancelled = false := by simp [RunState.isCancelled, hfatal, htime]
    rw [List.eq_nil_iff_forall_not_mem]
    intro id hid
    rw [show (respond p s).cancelled = s.cancelled p from rfl, h.mem_cancelled_iff, h.not_open hrun id] at hid
    cases hid

end Engine.Ended

/-! ## A decision -/

namespace Decision

/-- One of two nodes is skipped, and the node behind both runs and fails. -/
def text : String :=
  "[workflow]\nstart_node = ask\n[node.ask]\ntype = if\ncondition = true\n[node.yes]\ntype = set\n"
    ++ "[node.no]\ntype = set\n[node.end]\ntype = fail\n[edges]\nask = [yes, no]\nyes = end\nno = end\n"

def workflow : Workflow :=
  { Workflow.empty "" "ask" with
    nodes := [⟨"ask", "if", "ask", [("condition", .bool true)], none⟩, ⟨"yes", "set", "yes", [], none⟩,
      ⟨"no", "set", "no", [], none⟩, ⟨"end", "fail", "end", [], none⟩]
    edges := [("ask", .branch ["yes", "no"]), ("yes", .fanOut ["end"]), ("no", .fanOut ["end"])] }

set_option maxRecDepth 20000 in
theorem compile_text : Workflow.parse text = .ok workflow ∧ workflow.validate .standard = .ok () := by
  have hparse : (Workflow.parse text).toOption = some workflow := by decide +kernel
  have hvalid : (workflow.validate .standard).toOption = some () := by decide +kernel
  exact ⟨eq_ok_of_toOption hparse, eq_ok_of_toOption hvalid⟩

def flow : CompiledWorkflow := ⟨workflow, _, compile_text.2⟩

def engine : Engine := ⟨Builtin.registry, .standalone, []⟩

def context : Context := ⟨"", [], .null, [], .empty⟩

def events : List RunState.Event :=
  [.queue, .grant "ask", .wake "ask", .handle "ask", .queue, .grant "yes", .wake "yes", .handle "yes", .queue,
    .grant "end", .wake "end", .handle "end"]

def final? : Option RunState :=
  match Engine.prepare workflow (flow.graph.reachableFrom "ask") .empty [] context with
  | .ok (nodes, c) => some ((Engine.start flow (flow.graph.reachableFrom "ask") "ask" c .empty).run
      (engine.plan workflow nodes .blank) events)
  | .error _ => none

set_option maxRecDepth 20000 in
theorem ended : ∃ p s, engine.Ended flow "ask" p s ∧ s.isCancelled = false := by
  have hdone : final?.any (fun s => s.isDone && !s.isCancelled) = true := by decide +kernel
  have hroot : "ask" ∈ flow.roots := by decide +kernel
  have hcompiled : CompiledWorkflow.ofDocument .standard text = .ok flow := by
    rw [CompiledWorkflow.ofDocument, compile_text.1, ok_bind]
    exact Workflow.compile_eq_ok.mpr ⟨compile_text.2, rfl⟩
  unfold final? at hdone
  cases hp : Engine.prepare workflow (flow.graph.reachableFrom "ask") .empty [] context with
  | error e => rw [hp] at hdone; cases hdone
  | ok prepared =>
    obtain ⟨nodes, c⟩ := prepared
    rw [hp] at hdone
    simp only [Option.any_some, Bool.and_eq_true, Bool.not_eq_true'] at hdone
    exact ⟨_, _, ⟨⟨_, text, hcompiled⟩, hroot, ⟨.empty, [], context, c, nodes, .blank, events, rfl, hp, rfl, rfl⟩, hdone.1⟩,
      hdone.2⟩

end Decision

theorem response_count_decision : ∃ p s, Decision.engine.Ended Decision.flow "ask" p s ∧ s.fatal = none ∧
    s.timedOut = false ∧ (∀ id, (Engine.respond p s).results.order.count id + (Engine.respond p s).skipped.count id
      + (Engine.respond p s).cancelled.count id = if id ∈ Decision.flow.graph.reachableFrom "ask" then 1 else 0) ∧
    (Engine.respond p s).cancelled = [] := by
  obtain ⟨p, s, h, hrun⟩ := Decision.ended
  simp only [RunState.isCancelled, Bool.or_eq_false_iff, Option.isSome_eq_false_iff, Option.isNone_iff_eq_none] at hrun
  have hcount := h.response_count
  exact ⟨p, s, h, hrun.1, hrun.2, hcount.1, hcount.2 hrun.1 hrun.2⟩

end FlowEngine
