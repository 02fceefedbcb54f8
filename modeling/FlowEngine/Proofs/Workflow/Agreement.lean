import Mathlib
import FlowEngine.Proofs.Workflow.Built
import FlowEngine.Proofs.Workflow.Checked

/-!
# Graph and routing

The graph has an edge for each target of each entry among the edges, while a node is
routed by the first entry that it has. So the targets of a later entry wait for a
node that never releases them, unless the first entry has them too
(`predecessors_agree_iff`). Documents have one entry for each source.
-/

namespace FlowEngine

namespace Workflow

variable {w : Workflow}

/-- The targets of each entry are targets of the first entry of its source. -/
def EdgesAgree (w : Workflow) : Prop := ∀ e ∈ w.edges, e.2.targets ⊆ w.successors e.1

theorem mem_predecessors_iff {p s : String} : p ∈ w.graph.predecessors s ↔ ∃ r, (p, r) ∈ w.edges ∧ s ∈ r.targets := by
  rw [Graph.mem_predecessors, Graph.mem_successors, mem_graph_edges]

theorem mem_predecessors_of_successors {p s : String} (h : s ∈ w.successors p) : p ∈ w.graph.predecessors s :=
  Graph.mem_predecessors.mpr (successors_subset_graph p h)

theorem edgesAgree_iff : w.EdgesAgree ↔ ∀ p s, p ∈ w.graph.predecessors s ↔ s ∈ w.successors p := by
  constructor
  · intro h p s
    refine ⟨fun hp => ?_, mem_predecessors_of_successors⟩
    obtain ⟨r, hr, hs⟩ := mem_predecessors_iff.mp hp
    exact h (p, r) hr hs
  · intro h e he t ht
    exact (h e.1 t).mp (mem_predecessors_iff.mpr ⟨e.2, he, ht⟩)

theorem edgesAgree_of_nodup (h : (w.edges.map (·.1)).Nodup) : w.EdgesAgree := by
  intro e he t ht
  rw [successors, routing, Entries.get?_of_mem (m := w.edges) h he]
  exact ht

end Workflow

namespace CompiledWorkflow

/-- The graph of a compiled workflow agrees with the routings just if its edges do, as those of
documents and of distinct sources do; it lacks no successor, and lists no predecessor twice. -/
theorem predecessors_agree_iff (flow : CompiledWorkflow) :
    ((∀ p s, p ∈ flow.graph.predecessors s ↔ s ∈ (flow.workflow.routing p).targets) ↔ flow.workflow.EdgesAgree) ∧
    (∀ p s, s ∈ (flow.workflow.routing p).targets → p ∈ flow.graph.predecessors s) ∧
    (∀ s, (flow.graph.predecessors s).Nodup) ∧
    ((flow.workflow.edges.map (·.1)).Nodup → flow.workflow.EdgesAgree) ∧
    (∀ cal text, ofDocument cal text = .ok flow → flow.workflow.EdgesAgree) := by
  refine ⟨Workflow.edgesAgree_iff.symm, fun p s => Workflow.mem_predecessors_of_successors,
    fun s => Graph.nodup_predecessors s, Workflow.edgesAgree_of_nodup, fun cal text h => ?_⟩
  exact Workflow.edgesAgree_of_nodup (ofDocument_checked h).sources

end CompiledWorkflow

/-! ## A second entry for a node -/

namespace Forked

/-- The node `A` is routed to `B`, yet `C` waits for it. -/
def workflow : Workflow :=
  { Workflow.empty "flow" "A" with
    nodes := [⟨"A", "set", "A", [], none⟩, ⟨"B", "set", "B", [], none⟩, ⟨"C", "set", "C", [], none⟩]
    edges := [("A", .fanOut ["B"]), ("A", .fanOut ["C"])] }

theorem built : workflow.Built := by
  have hA := (Workflow.Built.empty "flow" "A").addNode ⟨"A", "set", "A", [], none⟩
  have hB := hA.addNode ⟨"B", "set", "B", [], none⟩
  have hC := hB.addNode ⟨"C", "set", "C", [], none⟩
  exact (hC.addEdge "A" (.fanOut ["B"])).addEdge "A" (.fanOut ["C"])

theorem validate_workflow : workflow.validate .standard = .ok () := eq_ok_of_toOption (by decide)

theorem not_agree : ¬∀ flow : CompiledWorkflow, flow.workflow.Built → ∀ p s,
    p ∈ flow.graph.predecessors s ↔ s ∈ (flow.workflow.routing p).targets := by
  intro hall
  have hgraph : "A" ∈ workflow.graph.predecessors "C" := by decide
  have hrouted : "C" ∈ (workflow.routing "A").targets :=
    (hall ⟨workflow, _, validate_workflow⟩ built "A" "C").mp hgraph
  exact absurd hrouted (by decide)

end Forked

end FlowEngine
