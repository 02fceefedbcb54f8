import Mathlib
import FlowEngine.Proofs.Workflow.Readable

/-!
# Workflows put together by hand

A workflow may be built without a document, from nodes and entries of edges in any
order. Its node ids are distinct, for adding a node checks that its id is free;
nothing checks the edges.
-/

namespace FlowEngine.Workflow

/-- Nodes are added as long as their ids are free, and entries of edges at will. -/
inductive Built : Workflow → Prop
  | empty (name startNode : String) : Built (.empty name startNode)
  | addNode {w : Workflow} (h : Built w) (n : Node) : Built (w.addNode n).2
  | addEdge {w : Workflow} (h : Built w) (source : String) (r : Routing) :
    Built { w with edges := w.edges ++ [(source, r)] }

structure Bare (w : Workflow) : Prop where
  header : w.headerExtra = []
  parameters : w.parameters = []
  settings : w.settings = .default
  sections : w.sections = []

theorem addNode_cases (w : Workflow) (n : Node) :
    (n.id ∈ w.nodeIds ∧ (w.addNode n).2 = w) ∨ (n.id ∉ w.nodeIds ∧ (w.addNode n).2 = { w with nodes := w.nodes ++ [n] }) := by
  rw [addNode, ← hasNode_iff]
  by_cases h : w.hasNode n.id = true
  · exact .inl ⟨h, by rw [if_pos h]⟩
  · exact .inr ⟨h, by rw [if_neg h]⟩

theorem Built.bare {w : Workflow} (h : w.Built) : w.Bare := by
  induction h with
  | empty name startNode => exact ⟨rfl, rfl, rfl, rfl⟩
  | @addNode w _ n ih =>
    rcases w.addNode_cases n with ⟨-, he⟩ | ⟨-, he⟩
    · rw [he]
      exact ih
    · rw [he]
      exact ⟨ih.header, ih.parameters, ih.settings, ih.sections⟩
  | addEdge _ source r ih => exact ⟨ih.header, ih.parameters, ih.settings, ih.sections⟩

theorem Built.nodup_ids {w : Workflow} (h : w.Built) : w.nodeIds.Nodup := by
  induction h with
  | empty name startNode => exact List.nodup_nil
  | @addNode w _ n ih =>
    rcases w.addNode_cases n with ⟨-, he⟩ | ⟨hfree, he⟩
    · rw [he]
      exact ih
    · rw [he, nodeIds, List.map_append]
      exact ih.append (List.nodup_singleton _) (by simpa [nodeIds] using hfree)
  | addEdge _ source r ih => exact ih

end FlowEngine.Workflow
