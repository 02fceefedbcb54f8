import Mathlib
import FlowEngine.Catalog
import FlowEngine.Proofs.Graph.Suspect
import FlowEngine.Proofs.Workflow.Valid

/-!
# Refused workflows

A document is refused for its text (`parse_phase`), a workflow for one of its nodes or
edges or for a cycle (`validate_eq_error`). The cycle that is reported is one: its
nodes follow each other along the edges, only the first of them stands twice, and
roots lead to them (`validate_cycle`).
-/

namespace FlowEngine

def FlowError.IsLocal : FlowError → Prop
  | .danglingReference .. => True
  | .invalidRouting .. => True
  | .invalidSchedule .. => True
  | _ => False

theorem FlowError.IsLocal.phase {e : FlowError} (h : e.IsLocal) : e.phase = .validation := by
  cases e with
  | danglingReference => rfl
  | invalidRouting => rfl
  | invalidSchedule => rfl
  | _ => cases h

namespace Workflow

variable {w : Workflow} {cal : Calendar} {e : FlowError}

/-! ## Documents -/

theorem Draft.add_phase {d : Draft} {b : Document.Block} (h : d.add b = .error e) : e.phase = .parse := by
  rw [Draft.add] at h
  split at h
  · cases h
  simp only at h
  split_ifs at h
  split at h
  · cases h
    rfl
  · split at h
    · cases h
    · cases h
      rfl
  · cases h

theorem parse_phase {text : String} (h : parse text = .error e) : e.phase = .parse := by
  rw [parse] at h
  split at h
  · rename_i blocks _
    rw [ofBlocks] at h
    rcases bind_eq_error.mp h with hd | ⟨draft, -, h⟩
    · obtain ⟨b, -, d, hb⟩ := foldlM_eq_error hd
      exact Draft.add_phase hb
    · split at h
      · cases h
      · cases h
        rfl
  · cases h
    rfl

/-! ## Checks -/

theorem checkTargets_isLocal {source : String} : ∀ {ts : List String}, w.checkTargets source ts = .error e → e.IsLocal
  | t :: ts, h => by
    rw [checkTargets] at h
    split at h
    · exact checkTargets_isLocal h
    · cases h
      trivial

theorem checkEdges_isLocal : ∀ {es : List (String × Routing)}, w.checkEdges es = .error e → e.IsLocal
  | (source, r) :: es, h => by
    rw [checkEdges] at h
    simp only at h
    split at h
    · cases h
      trivial
    rcases bind_eq_error.mp h with ht | ⟨-, -, hrest⟩
    · exact checkTargets_isLocal ht
    · exact checkEdges_isLocal hrest

theorem checkTimer_isLocal {n : Node} (h : w.checkTimer cal n = .error e) : e.IsLocal := by
  rw [checkTimer] at h
  split at h
  · cases h
    trivial
  split at h
  · cases h
    trivial
  split at h
  · cases h
    trivial
  split at h
  · cases h
    trivial
  split at h
  · cases h
    trivial
  · cases h

theorem checkNode_isLocal {n : Node} (h : w.checkNode cal n = .error e) : e.IsLocal := by
  have htimer : (if n.isTimer then w.checkTimer cal n else .ok ()) = .error e → e.IsLocal := by
    intro h
    split at h
    · exact checkTimer_isLocal h
    · cases h
  rw [checkNode] at h
  split at h
  · split at h
    · cases h
      trivial
    · exact htimer h
  · exact htimer h

theorem checkNodes_isLocal : ∀ {ns : List Node}, w.checkNodes cal ns = .error e → e.IsLocal
  | n :: ns, h => by
    rw [checkNodes] at h
    rcases bind_eq_error.mp h with hn | ⟨-, -, hrest⟩
    · exact checkNode_isLocal hn
    · exact checkNodes_isLocal hrest

theorem checkRoutings_isLocal : ∀ {ids : List String}, w.checkRoutings ids = .error e → e.IsLocal
  | id :: ids, h => by
    rw [checkRoutings] at h
    split at h
    · cases h
      trivial
    · exact checkRoutings_isLocal h

theorem validate_eq_error (h : w.validate cal = .error e) : e.IsLocal ∨
    ∃ path, e = .cycle path ∧ w.startNode ∈ w.nodeIds ∧ w.checkEdges w.edges = .ok () ∧ w.checkNodes cal w.nodes = .ok () ∧
      w.graph.cycle? w.reachable = some path := by
  rw [validate] at h
  cases hs : w.hasNode w.startNode with
  | false =>
    rw [hs] at h
    cases h
    exact .inl trivial
  | true =>
    rw [hs] at h
    rcases bind_eq_error.mp h with hedges | ⟨_, hedges, h⟩
    · exact .inl (checkEdges_isLocal hedges)
    rcases bind_eq_error.mp h with hnodes | ⟨_, hnodes, h⟩
    · exact .inl (checkNodes_isLocal hnodes)
    cases hc : w.graph.cycle? w.reachable with
    | none =>
      rw [hc] at h
      exact .inl (checkRoutings_isLocal h)
    | some path =>
      rw [hc] at h
      cases h
      exact .inr ⟨path, rfl, hasNode_iff.mp hs, hedges, hnodes, rfl⟩

theorem validate_phase (h : w.validate cal = .error e) : e.phase = .validation := by
  rcases validate_eq_error h with hlocal | ⟨path, rfl, -⟩
  · exact hlocal.phase
  · rfl

theorem compile_eq_error : w.compile cal = .error e ↔ w.validate cal = .error e := by
  rw [compile]
  split
  · rename_i hv
    simp [hv]
  · rename_i e' hv
    simp [hv]

theorem ofDocument_eq_error {text : String} : CompiledWorkflow.ofDocument cal text = .error e ↔
    (parse text = .error e ∧ e.phase = .parse) ∨
      ∃ w, parse text = .ok w ∧ w.validate cal = .error e ∧ e.phase = .validation := by
  rw [CompiledWorkflow.ofDocument, bind_eq_error]
  refine or_congr ⟨fun h => ⟨h, parse_phase h⟩, And.left⟩ (exists_congr fun w => and_congr_right fun _ => ?_)
  rw [compile_eq_error]
  exact ⟨fun h => ⟨h, validate_phase h⟩, And.left⟩

/-! ## Cycles -/

/-- Some entry among the edges leads from `a` to `b`. -/
def Declares (w : Workflow) (a b : String) : Prop := ∃ r, (a, r) ∈ w.edges ∧ b ∈ r.targets

theorem graph_step_eq_declares : w.graph.Step = w.Declares := by
  funext a b
  exact propext (Graph.mem_successors.trans mem_graph_edges)

/-- A way along the edges that ends where it starts and else holds no node twice, in what
the roots lead to. -/
structure ReportedCycle (w : Workflow) (path : List String) : Prop where
  long : 2 ≤ path.length
  closed : path.head? = path.getLast?
  distinct : path.dropLast.Nodup
  declared : path.IsChain w.Declares
  reachable : ∀ id ∈ path, ∃ root, w.IsRoot root ∧ Relation.ReflTransGen w.Declares root id

theorem ReportedCycle.of_isCycle {path : List String} (h : w.graph.IsCycle path)
    (hreach : ∀ id ∈ path, ∃ root, w.IsRoot root ∧ Relation.ReflTransGen w.Declares root id) : w.ReportedCycle path := by
  obtain ⟨⟨n, mid, rfl, hnodup⟩, hchain⟩ := h
  rw [graph_step_eq_declares] at hchain
  rw [← List.cons_append] at hchain hreach ⊢
  refine ⟨by simp, ?_, ?_, hchain, hreach⟩
  · rw [List.getLast?_concat, List.cons_append, List.head?_cons]
  · rwa [List.dropLast_concat]

theorem mem_reachable {id : String} (h : id ∈ w.reachable) :
    ∃ root, w.IsRoot root ∧ Relation.ReflTransGen w.Declares root id := by
  simp only [reachable, List.mem_filter, List.contains_iff_mem, List.mem_flatMap, mem_roots] at h
  obtain ⟨-, root, hroot, hid⟩ := h
  refine ⟨root, hroot, ?_⟩
  rw [← graph_step_eq_declares]
  exact (Graph.mem_reachableFrom_iff.mp hid).2

section
variable (hedges : ∀ e ∈ w.edges, e.1 ∈ w.nodeIds ∧ ∀ t ∈ e.2.targets, t ∈ w.nodeIds)
include hedges

theorem reachable_closed : ∀ n ∈ w.reachable, w.graph.successors n ⊆ w.reachable := by
  intro n hn s hs
  simp only [reachable, List.mem_filter, List.contains_iff_mem, List.mem_flatMap] at hn ⊢
  obtain ⟨-, root, hroot, hid⟩ := hn
  have hs := Graph.reachableFrom_closed hid hs
  exact ⟨reachableFrom_subset hedges root hs, root, hroot, hs⟩

theorem graph_edges_known : (∀ e ∈ w.graph.edges, e.1 ∈ w.graph.nodes) ∧ ∀ e ∈ w.graph.edges, e.2 ∈ w.graph.nodes := by
  constructor
  · intro e he
    obtain ⟨r, hr, -⟩ := mem_graph_edges.mp he
    exact (hedges _ hr).1
  · intro e he
    obtain ⟨r, hr, ht⟩ := mem_graph_edges.mp he
    exact (hedges _ hr).2 _ ht

theorem report_reachable : w.graph.report w.reachable = w.graph.cycle? w.reachable := by
  obtain ⟨hsource, htarget⟩ := graph_edges_known hedges
  exact Graph.report_eq_cycle? (reachable_closed hedges) (fun id hid => (List.mem_filter.mp hid).1) hsource htarget

end

/-- A workflow that is refused for a cycle has it. The cycle is also what is reported if the
search is left out until a node is suspected and may give up and name that node alone; and
where no source has two entries it is one of routings. -/
theorem validate_cycle {path : List String} (h : w.validate cal = .error (.cycle path)) :
    w.ReportedCycle path ∧ w.graph.report w.reachable = some path ∧
    ((w.edges.map (·.1)).Nodup → path.IsChain w.Follows ∧ ∀ id ∈ path, w.Reachable id) := by
  obtain hlocal | ⟨path', hpath, -, hedges, -, hcycle⟩ := validate_eq_error h
  · cases hlocal
  cases hpath
  have hedges := checkEdges_eq_ok.mp hedges
  obtain ⟨hcyclic, hsub⟩ := Graph.cycle?_eq_some (reachable_closed hedges) hcycle
  have hreported := ReportedCycle.of_isCycle hcyclic fun id hid => mem_reachable (hsub hid)
  refine ⟨hreported, (report_reachable hedges).trans hcycle, fun hsources => ?_⟩
  have hfollows : w.Declares = w.Follows := graph_step_eq_declares.symm.trans (graph_step hsources)
  refine ⟨hfollows ▸ hreported.declared, fun id hid => ?_⟩
  obtain ⟨root, hroot, hreach⟩ := hreported.reachable id hid
  exact ⟨root, hroot, hfollows ▸ hreach⟩

end Workflow

/-! ## A timer that starts a cycle -/

namespace Circular

/-- Only the handler of the timer leads to the cycle, which does not go through it. -/
def workflow : Workflow :=
  { Workflow.empty "flow" "idle" with
    nodes := [⟨"idle", "set", "idle", [], none⟩, ⟨"tick", "timer", "tick", [("schedule", .string "0 */5 * * * *")], some "first"⟩,
      ⟨"first", "set", "first", [], none⟩, ⟨"left", "set", "left", [], none⟩, ⟨"right", "set", "right", [], none⟩]
    edges := [("first", .fanOut ["left"]), ("left", .fanOut ["right"]), ("right", .select ["left", "idle"])] }

end Circular

set_option maxRecDepth 20000 in
theorem Workflow.validate_cycle_circular : Circular.workflow.validate .standard = .error (.cycle ["right", "left", "right"]) ∧
    Circular.workflow.ReportedCycle ["right", "left", "right"] ∧
    Circular.workflow.graph.report Circular.workflow.reachable = some ["right", "left", "right"] ∧
    (Circular.workflow.edges.map (·.1)).Nodup ∧ ["right", "left", "right"].IsChain Circular.workflow.Follows := by
  have hsources : (Circular.workflow.edges.map (·.1)).Nodup := by decide
  have hcycle : Circular.workflow.validate .standard = .error (.cycle ["right", "left", "right"]) := by decide +kernel
  obtain ⟨hreported, hreport, hfollows⟩ := Workflow.validate_cycle hcycle
  exact ⟨hcycle, hreported, hreport, hsources, (hfollows hsources).1⟩

end FlowEngine
