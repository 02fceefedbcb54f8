import Mathlib
import FlowEngine.Proofs.Workflow.Built
import FlowEngine.Proofs.Workflow.RoundTrip

/-!
# Built workflows read back

A workflow put together by hand may have routings that no document has: a fan-out
or a branch without targets is written like no routing, and is read back as none.
All else comes back as it was (`Built.parse_document_iff`).
-/

namespace FlowEngine

open Document (HeaderName ReadableRouting)

/-! ## Routings -/

/-- What is read for a routing as it is written. -/
def Routing.reread : Routing → Routing
  | fanOut [] => none
  | branch [] => none
  | r => r

namespace Routing

theorem reread_readable : ∀ r : Routing, ReadableRouting r.reread
  | fanOut [] | branch [] | none | select _ => trivial
  | fanOut (_ :: _) | branch (_ :: _) => List.cons_ne_nil _ _

theorem write_reread : ∀ r : Routing, r.reread.write = r.write
  | fanOut [] | branch [] | none | select _ | fanOut (_ :: _) | branch (_ :: _) => rfl

theorem targets_reread : ∀ r : Routing, r.reread.targets = r.targets
  | fanOut [] | branch [] | none | select _ | fanOut (_ :: _) | branch (_ :: _) => rfl

theorem reread_eq_self : ∀ {r : Routing}, r.reread = r ↔ r ≠ fanOut [] ∧ r ≠ branch []
  | fanOut [] | branch [] | none | select _ | fanOut (_ :: _) | branch (_ :: _) => by simp [reread]

end Routing

namespace Workflow

/-! ## Workflows -/

def reread (w : Workflow) : Workflow := { w with edges := w.edges.map fun e => (e.1, e.2.reread) }

variable {w : Workflow}

theorem document_reread (w : Workflow) : w.reread.document = w.document := by
  have hedges : writeEdges w.reread.edges = writeEdges w.edges := by
    simp only [writeEdges, reread, List.isEmpty_map, List.flatMap_map, Routing.write_reread]
  unfold document write
  rw [hedges]
  rfl

theorem successors_reread (w : Workflow) (id : String) : w.reread.successors id = w.successors id := by
  simp only [successors, routing, reread, Entries.get?_map_values]
  cases Entries.get? w.edges id with
  | none => rfl
  | some r => exact r.targets_reread

theorem reread_eq_self : w.reread = w ↔ ∀ e ∈ w.edges, e.2 ≠ .fanOut [] ∧ e.2 ≠ .branch [] := by
  have hedges : w.reread = w ↔ w.edges.map (fun e => (e.1, e.2.reread)) = w.edges.map id := by
    rw [List.map_id]
    exact ⟨congrArg Workflow.edges, congrArg fun es => { w with edges := es }⟩
  rw [hedges, List.map_inj_left]
  refine forall₂_congr fun e _ => ?_
  rw [← Routing.reread_eq_self, id, Prod.ext_iff]
  exact and_iff_right rfl

theorem Bare.readable_reread (h : w.Bare) (hids : w.nodeIds.Nodup) (hnodes : ∀ n ∈ w.nodes, HeaderName n.id ∧ n.config = [])
    (hsources : (w.edges.map (·.1)).Nodup) : w.reread.Readable where
  header := by rw [show w.reread.headerExtra = [] from h.header]; exact .nil _
  parameters := by rw [show w.reread.parameters = [] from h.parameters]; exact .nil _
  settings := by rw [show w.reread.settings = .default from h.settings]; rfl
  raw := by rw [show w.reread.settings = .default from h.settings]; exact .nil _
  ids := hids
  nodes := fun n hn => ⟨(hnodes n hn).1, by rw [(hnodes n hn).2]; exact .nil _⟩
  edges := by
    refine ⟨?_, fun e he => ?_⟩
    · rw [reread, List.map_map]
      exact hsources
    · obtain ⟨e, -, rfl⟩ := List.mem_map.mp he
      exact e.2.reread_readable
  names := by rw [show w.reread.sections = [] from h.sections]; exact List.nodup_nil
  sections := by rw [show w.reread.sections = [] from h.sections]; simp

theorem Built.parse_document_reread (h : w.Built) (hnodes : ∀ n ∈ w.nodes, HeaderName n.id ∧ n.config = [])
    (hsources : (w.edges.map (·.1)).Nodup) : parse w.document = .ok w.reread := by
  rw [← document_reread]
  exact parse_of_readable (h.bare.readable_reread h.nodup_ids hnodes hsources)

/-- A built workflow is read back from its document, with its routings as they are written:
the same workflow, unless one is a fan-out or a branch without targets. -/
theorem Built.parse_document_iff (h : w.Built) (hnodes : ∀ n ∈ w.nodes, HeaderName n.id ∧ n.config = [])
    (hsources : (w.edges.map (·.1)).Nodup) :
    parse w.document = .ok w.reread ∧ (∀ id, w.reread.successors id = w.successors id) ∧
    (parse w.document = .ok w ↔ ∀ e ∈ w.edges, e.2 ≠ .fanOut [] ∧ e.2 ≠ .branch []) := by
  have hread := h.parse_document_reread hnodes hsources
  refine ⟨hread, w.successors_reread, ?_⟩
  rw [hread, ← reread_eq_self, Except.ok.injEq]

/-! ## Workflows that no document has -/

def mixed : Workflow :=
  { Workflow.empty "a \"flow\"" "" with
    nodes := [⟨"true", "", "[x] = 1", [], some "a b"⟩, ⟨"node.a", "null", "", [], none⟩]
    edges := [("true", .branch ["x", "", "x]"]), ("node.a", .select []), ("", .fanOut ["a, b"]), ("#", .none)] }

theorem built_mixed : mixed.Built := by
  have hnodes := ((Built.empty "a \"flow\"" "").addNode ⟨"true", "", "[x] = 1", [], some "a b"⟩).addNode
    ⟨"node.a", "null", "", [], none⟩
  have hedges := (hnodes.addEdge "true" (.branch ["x", "", "x]"])).addEdge "node.a" (.select [])
  exact (hedges.addEdge "" (.fanOut ["a, b"])).addEdge "#" .none

theorem headerName_mixed : ∀ n ∈ mixed.nodes, HeaderName n.id ∧ n.config = [] := by
  have hname : HeaderName "true" ∧ HeaderName "node.a" := by decide
  simp [mixed, hname]

theorem parse_document_mixed : parse mixed.document = .ok mixed := by
  have hsources : (mixed.edges.map (·.1)).Nodup := by decide
  have htargets : ∀ e ∈ mixed.edges, e.2 ≠ .fanOut [] ∧ e.2 ≠ .branch [] := by decide
  exact (built_mixed.parse_document_iff headerName_mixed hsources).2.2.mpr htargets

/-- The branch is refused as it is built, and not when it was read back. -/
def hollow : Workflow :=
  { Workflow.empty "flow" "A" with
    nodes := [⟨"A", "set", "A", [], none⟩]
    edges := [("A", .branch [])] }

theorem not_read_back : ¬∀ w : Workflow, w.Built → (∀ n ∈ w.nodes, HeaderName n.id ∧ n.config = []) →
    (w.edges.map (·.1)).Nodup → parse w.document = .ok w := by
  intro hall
  have hbuilt : hollow.Built := ((Built.empty "flow" "A").addNode ⟨"A", "set", "A", [], none⟩).addEdge "A" (.branch [])
  have hname : HeaderName "A" := by decide
  have hnodes : ∀ n ∈ hollow.nodes, HeaderName n.id ∧ n.config = [] := by simp [hollow, hname]
  have hsources : (hollow.edges.map (·.1)).Nodup := by decide
  have hsame := hall hollow hbuilt hnodes hsources
  rw [hbuilt.parse_document_reread hnodes hsources, Except.ok.injEq] at hsame
  exact absurd hsame (by decide)

end Workflow

end FlowEngine
