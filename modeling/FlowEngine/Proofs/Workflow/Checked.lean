import Mathlib
import FlowEngine.Catalog
import FlowEngine.Proofs.Graph.Acyclic
import FlowEngine.Proofs.Workflow.Readable

/-!
# Checked workflows

What validation makes sure of (`validate_eq_ok`), and what follows for the
workflow of a document, whose node ids and edge sources are distinct: its graph
agrees with its routings, its references lead to nodes, and what its roots reach
stands in an order without a cycle (`ofDocument_checked`).
-/

namespace FlowEngine

namespace Workflow

variable {w : Workflow} {cal : Calendar}

/-! ## Parts of the validation -/

theorem checkTargets_eq_ok (source : String) : ∀ {ts : List String},
    w.checkTargets source ts = .ok () ↔ ∀ t ∈ ts, t ∈ w.nodeIds
  | [] => by simp [checkTargets]
  | t :: ts => by
    rw [checkTargets, List.forall_mem_cons, ← checkTargets_eq_ok source, ← hasNode_iff]
    split
    · rename_i h; simp [h]
    · rename_i h; simp [h]

theorem checkEdges_eq_ok : ∀ {es : List (String × Routing)},
    w.checkEdges es = .ok () ↔ ∀ e ∈ es, e.1 ∈ w.nodeIds ∧ ∀ t ∈ e.2.targets, t ∈ w.nodeIds
  | [] => by simp [checkEdges]
  | (source, r) :: es => by
    rw [checkEdges, List.forall_mem_cons, ← checkEdges_eq_ok, ← hasNode_iff, ← checkTargets_eq_ok source]
    simp only
    split
    · rename_i h; simp at h; simp [h]
    · rename_i h
      simp only [Bool.not_eq_true, Bool.not_eq_false'] at h
      simp [h, unit_bind_eq_ok]

theorem checkNodes_eq_ok : ∀ {ns : List Node}, w.checkNodes cal ns = .ok () ↔ ∀ n ∈ ns, w.checkNode cal n = .ok ()
  | [] => by simp [checkNodes]
  | n :: ns => by
    rw [checkNodes, List.forall_mem_cons, ← checkNodes_eq_ok, unit_bind_eq_ok]

theorem checkRoutings_eq_ok : ∀ {ids : List String},
    w.checkRoutings ids = .ok () ↔ ∀ id ∈ ids, routingFault? (w.routing id) = none
  | [] => by simp [checkRoutings]
  | id :: ids => by
    rw [checkRoutings, List.forall_mem_cons, ← checkRoutings_eq_ok]
    split
    · rename_i h; simp [h]
    · rename_i h; simp [h]

theorem validate_eq_ok : w.validate cal = .ok () ↔ w.startNode ∈ w.nodeIds ∧ w.checkEdges w.edges = .ok () ∧
    w.checkNodes cal w.nodes = .ok () ∧ w.graph.cycle? w.reachable = none ∧ w.checkRoutings w.reachable = .ok () := by
  rw [← hasNode_iff, validate]
  cases hs : w.hasNode w.startNode with
  | false => simp
  | true =>
    cases hc : w.graph.cycle? w.reachable with
    | none => simp [unit_bind_eq_ok]
    | some path => simp [unit_bind_eq_ok]

theorem compile_eq_ok {flow : CompiledWorkflow} :
    w.compile cal = .ok flow ↔ w.validate cal = .ok () ∧ flow.workflow = w := by
  rw [compile]
  constructor
  · intro h
    split at h
    · rename_i hv
      cases h
      exact ⟨hv, rfl⟩
    · cases h
  · rintro ⟨hv, rfl⟩
    split
    · rfl
    · rename_i e he
      rw [hv] at he
      cases he

theorem checkNode_handler {n : Node} (h : w.checkNode cal n = .ok ()) : ∀ id ∈ n.handler, id ∈ w.nodeIds := by
  intro id hid
  rw [Option.mem_def] at hid
  rw [checkNode, hid] at h
  simp only at h
  cases hn : w.hasNode id with
  | true => exact hasNode_iff.mp hn
  | false =>
    simp only [hn, Bool.not_false, if_true] at h
    cases h

/-! ## The graph of a workflow -/

/-- Distinct ids and edge sources, references to nodes, and an order of what the roots
reach. -/
structure Checked (w : Workflow) : Prop where
  ids : w.nodeIds.Nodup
  sources : (w.edges.map (·.1)).Nodup
  start : w.startNode ∈ w.nodeIds
  edges : ∀ e ∈ w.edges, e.1 ∈ w.nodeIds ∧ ∀ t ∈ e.2.targets, t ∈ w.nodeIds
  handlers : ∀ n ∈ w.nodes, ∀ id ∈ n.handler, id ∈ w.nodeIds
  acyclic : ∃ order, Graph.Ordered w.graph order ∧ w.reachable ⊆ order

theorem mem_graph_edges {a b : String} : (a, b) ∈ w.graph.edges ↔ ∃ r, (a, r) ∈ w.edges ∧ b ∈ r.targets := by
  simp only [graph, List.mem_flatMap, List.mem_map, Prod.mk.injEq]
  constructor
  · rintro ⟨⟨s, r⟩, he, t, ht, rfl, rfl⟩
    exact ⟨r, he, ht⟩
  · rintro ⟨r, he, ht⟩
    exact ⟨(a, r), he, b, ht, rfl, rfl⟩

theorem successors_subset_graph (a : String) : w.successors a ⊆ w.graph.successors a := by
  intro b hb
  rw [successors, routing] at hb
  cases hr : Entries.get? w.edges a with
  | none => rw [hr] at hb; cases hb
  | some r =>
    rw [hr] at hb
    exact Graph.mem_successors.mpr (mem_graph_edges.mpr ⟨r, Entries.mem_of_get? hr, hb⟩)

theorem mem_graph_successors (h : (w.edges.map (·.1)).Nodup) {a b : String} :
    b ∈ w.graph.successors a ↔ b ∈ w.successors a := by
  refine ⟨fun hb => ?_, fun hb => successors_subset_graph a hb⟩
  obtain ⟨r, hr, hb⟩ := mem_graph_edges.mp (Graph.mem_successors.mp hb)
  rw [successors, routing, Entries.get?_of_mem h hr]
  exact hb

theorem roots_subset (h : ∀ n ∈ w.nodes, ∀ id ∈ n.handler, id ∈ w.nodeIds) (hs : w.startNode ∈ w.nodeIds) :
    w.roots ⊆ w.nodeIds := by
  intro root hr
  rw [roots, List.mem_eraseDups] at hr
  rcases List.mem_cons.mp hr with rfl | hr
  · exact hs
  · obtain ⟨n, hn, hid⟩ := List.mem_filterMap.mp hr
    exact h n (List.mem_filter.mp hn).1 root hid

theorem reachableFrom_subset (h : ∀ e ∈ w.edges, e.1 ∈ w.nodeIds ∧ ∀ t ∈ e.2.targets, t ∈ w.nodeIds) (root : String) :
    w.graph.reachableFrom root ⊆ w.nodeIds := by
  intro id hid
  obtain ⟨hroot, hreach⟩ := Graph.mem_reachableFrom_iff.mp hid
  cases hreach with
  | refl => exact hroot
  | tail _ hab =>
    obtain ⟨r, hr, hb⟩ := mem_graph_edges.mp (Graph.mem_successors.mp hab)
    exact (h _ hr).2 id hb

theorem reachableFrom_root (h : ∀ e ∈ w.edges, e.1 ∈ w.nodeIds ∧ ∀ t ∈ e.2.targets, t ∈ w.nodeIds) {root : String}
    (hr : root ∈ w.roots) : w.graph.reachableFrom root ⊆ w.reachable := by
  intro id hid
  simp only [reachable, List.mem_filter, List.contains_iff_mem, List.mem_flatMap]
  exact ⟨reachableFrom_subset h root hid, root, hr, hid⟩

theorem checked_of_validate (hids : w.nodeIds.Nodup) (hsources : (w.edges.map (·.1)).Nodup)
    (h : w.validate cal = .ok ()) : w.Checked := by
  obtain ⟨hstart, hedges, hnodes, hcycle, -⟩ := validate_eq_ok.mp h
  have hedges := checkEdges_eq_ok.mp hedges
  have hhandlers : ∀ n ∈ w.nodes, ∀ id ∈ n.handler, id ∈ w.nodeIds := fun n hn =>
    checkNode_handler (checkNodes_eq_ok.mp hnodes n hn)
  have hclosed : ∀ n ∈ w.graph.nodes, w.graph.successors n ⊆ w.graph.nodes := by
    intro n _ s hs
    obtain ⟨r, hr, ht⟩ := mem_graph_edges.mp (Graph.mem_successors.mp hs)
    exact (hedges _ hr).2 s ht
  have hsource : ∀ e ∈ w.graph.edges, e.1 ∈ w.graph.nodes := by
    intro e he
    obtain ⟨r, hr, -⟩ := mem_graph_edges.mp he
    exact (hedges _ hr).1
  have hscope : w.reachable ⊆ w.graph.nodes := fun id hid => (List.mem_filter.mp hid).1
  exact ⟨hids, hsources, hstart, hedges, hhandlers, Graph.cycle?_eq_none hclosed hscope hsource hcycle⟩

end Workflow

theorem CompiledWorkflow.ofDocument_parse {cal : Calendar} {text : String} {flow : CompiledWorkflow}
    (h : CompiledWorkflow.ofDocument cal text = .ok flow) : Workflow.parse text = .ok flow.workflow := by
  obtain ⟨w, hw, hc⟩ := bind_eq_ok.mp h
  obtain ⟨-, rfl⟩ := Workflow.compile_eq_ok.mp hc
  exact hw

theorem CompiledWorkflow.ofDocument_checked {cal : Calendar} {text : String} {flow : CompiledWorkflow}
    (h : CompiledWorkflow.ofDocument cal text = .ok flow) : flow.workflow.Checked := by
  have hread := Workflow.parse_readable (ofDocument_parse h)
  obtain ⟨_, hvalid⟩ := flow.valid
  exact Workflow.checked_of_validate hread.ids hread.edges.keys hvalid

end FlowEngine
