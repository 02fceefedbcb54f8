import Mathlib
import FlowEngine.Proofs.Graph.Cycle
import FlowEngine.Proofs.Workflow.Checked

/-!
# Valid workflows

What a workflow that can run has to satisfy, said by its nodes and routings alone
(`Workflow.Valid`): references lead to nodes, timers can fire, and what the roots
reach has no cycle and routes to as many targets as its routing needs. Whatever the
calendar, validation accepts exactly these workflows, and then gives the roots in the
order of their declaration (`compile_iff_valid`).
-/

namespace FlowEngine

/-- A node is a timer by its type or by an entry for its schedule. -/
def Node.IsTimed (n : Node) : Prop := n.kind = "timer" ∨ "schedule" ∈ n.config.keys

theorem Node.isTimer_iff {n : Node} : n.isTimer = true ↔ n.IsTimed := by
  have hkeys : n.config.contains "schedule" = true ↔ "schedule" ∈ n.config.keys := by
    rw [Entries.contains, Option.isSome_iff_ne_none, ne_eq, Entries.get?_eq_none, not_not]
  rw [isTimer, Bool.or_eq_true, beq_iff_eq, hkeys, IsTimed]

namespace Workflow

def Follows (w : Workflow) (a b : String) : Prop := b ∈ w.successors a

def IsRoot (w : Workflow) (id : String) : Prop :=
  id = w.startNode ∨ ∃ n ∈ w.nodes, n.IsTimed ∧ n.handler = some id

def Reachable (w : Workflow) (id : String) : Prop := ∃ root, w.IsRoot root ∧ Relation.ReflTransGen w.Follows root id

structure CanFire (w : Workflow) (cal : Calendar) (n : Node) : Prop where
  schedule : ∃ text, n.schedule? = some text ∧ cal.scheduleFault? text = none
  timezone : cal.isTimezone n.timezone = true
  handler : ∃ id, n.handler = some id
  successors : w.successors n.id = []

structure Valid (w : Workflow) (cal : Calendar) : Prop where
  start : w.startNode ∈ w.nodeIds
  sources : ∀ e ∈ w.edges, e.1 ∈ w.nodeIds
  targets : ∀ e ∈ w.edges, ∀ id ∈ e.2.targets, id ∈ w.nodeIds
  handlers : ∀ n ∈ w.nodes, ∀ id, n.handler = some id → id ∈ w.nodeIds
  timers : ∀ n ∈ w.nodes, n.IsTimed → w.CanFire cal n
  acyclic : ∀ id, w.Reachable id → ¬Relation.TransGen w.Follows id id
  branches : ∀ id ts, w.Reachable id → w.routing id = .branch ts → ts.length = 2
  selections : ∀ id ts, w.Reachable id → w.routing id = .select ts → ts ≠ []

variable {w : Workflow} {cal : Calendar}

/-! ## Nodes -/

theorem checkTimer_eq_ok {n : Node} : w.checkTimer cal n = .ok () ↔ w.CanFire cal n := by
  rw [checkTimer]
  constructor
  · intro h
    split at h
    · cases h
    rename_i text htext
    split at h
    · cases h
    rename_i hhandler
    split at h
    · cases h
    rename_i hsucc
    split at h
    · cases h
    rename_i hschedule
    split at h
    · cases h
    rename_i hzone
    rw [Bool.not_eq_true', Bool.not_eq_false] at hsucc hzone
    rw [Option.isNone_iff_eq_none, ← ne_eq, Option.ne_none_iff_exists'] at hhandler
    exact ⟨⟨text, htext, hschedule⟩, hzone, hhandler, List.isEmpty_iff.mp hsucc⟩
  · rintro ⟨⟨text, htext, hschedule⟩, hzone, ⟨id, hid⟩, hsucc⟩
    simp [htext, hid, hsucc, hschedule, hzone]

theorem checkNode_eq_ok {n : Node} : w.checkNode cal n = .ok () ↔
    (∀ id, n.handler = some id → id ∈ w.nodeIds) ∧ (n.IsTimed → w.CanFire cal n) := by
  rw [← checkTimer_eq_ok, ← Node.isTimer_iff, checkNode]
  cases hh : n.handler with
  | none => cases ht : n.isTimer <;> simp [pure, Except.pure]
  | some id =>
    simp only [Option.some.injEq, forall_eq', ← hasNode_iff]
    cases hn : w.hasNode id with
    | false => simp
    | true => cases ht : n.isTimer <;> simp [pure, Except.pure]

theorem routingFault?_eq_none {r : Routing} : routingFault? r = none ↔
    (∀ ts, r = .branch ts → ts.length = 2) ∧ (∀ ts, r = .select ts → ts ≠ []) := by
  cases r with
  | fanOut ts => simp [routingFault?]
  | branch ts => simp [routingFault?]
  | select ts => cases ts <;> simp [routingFault?]
  | none => simp [routingFault?]

/-! ## Roots -/

theorem mem_roots {id : String} : id ∈ w.roots ↔ w.IsRoot id := by
  simp only [roots, timers, List.mem_eraseDups, List.mem_cons, List.mem_filterMap, List.mem_filter, Node.isTimer_iff,
    IsRoot, and_assoc]

theorem idxOf_lt_of_filter {p : String → Bool} {a b : String} (ha : p a = true) (hb : p b = true) :
    ∀ {xs : List String}, (xs.filter p).idxOf a < (xs.filter p).idxOf b → xs.idxOf a < xs.idxOf b
  | [], h => by simp at h
  | x :: xs, h => by
    have ih : (xs.filter p).idxOf a < (xs.filter p).idxOf b → xs.idxOf a < xs.idxOf b := idxOf_lt_of_filter ha hb
    by_cases hx : p x = true
    · rw [List.filter_cons_of_pos hx] at h
      grind
    · rw [List.filter_cons_of_neg hx] at h
      have hxa : x ≠ a := fun he => hx (he ▸ ha)
      have hxb : x ≠ b := fun he => hx (he ▸ hb)
      rw [List.idxOf_cons_ne xs hxa, List.idxOf_cons_ne xs hxb]
      exact Nat.succ_lt_succ (ih h)

theorem pairwise_eraseDups (xs : List String) : xs.eraseDups.Pairwise fun a b => xs.idxOf a < xs.idxOf b := by
  match xs with
  | [] => exact List.Pairwise.nil
  | x :: xs =>
    have hlen := List.length_filter_le (fun y => !(y == x)) xs
    rw [List.eraseDups_cons, List.pairwise_cons]
    constructor
    · intro b hb
      have hne : x ≠ b := fun he => by simp [he] at hb
      rw [List.idxOf_cons_self, List.idxOf_cons_ne xs hne]
      exact Nat.succ_pos _
    · refine (pairwise_eraseDups (xs.filter fun y => !(y == x))).imp_of_mem ?_
      intro a b ha hb hlt
      have hpa := (List.mem_filter.mp (List.mem_eraseDups.mp ha)).2
      have hpb := (List.mem_filter.mp (List.mem_eraseDups.mp hb)).2
      have hxa : x ≠ a := fun he => by simp [he] at hpa
      have hxb : x ≠ b := fun he => by simp [he] at hpb
      rw [List.idxOf_cons_ne xs hxa, List.idxOf_cons_ne xs hxb]
      exact Nat.succ_lt_succ (idxOf_lt_of_filter hpa hpb hlt)
termination_by xs.length
decreasing_by simp only [List.length_cons]; omega

/-! ## What the roots reach -/

section
variable (hsources : (w.edges.map (·.1)).Nodup)
include hsources

theorem graph_step : w.graph.Step = w.Follows := by
  funext a b
  exact propext (mem_graph_successors hsources)

variable (hedges : ∀ e ∈ w.edges, e.1 ∈ w.nodeIds ∧ ∀ t ∈ e.2.targets, t ∈ w.nodeIds)
include hedges

theorem mem_reachable_iff (hroots : w.roots ⊆ w.nodeIds) {id : String} : id ∈ w.reachable ↔ w.Reachable id := by
  have hreach : ∀ root, w.graph.Reaches root id ↔ Relation.ReflTransGen w.Follows root id := by
    intro root
    rw [← graph_step hsources]
    rfl
  simp only [reachable, List.mem_filter, List.contains_iff_mem, List.mem_flatMap, mem_roots, Reachable]
  constructor
  · rintro ⟨-, root, hroot, hid⟩
    exact ⟨root, hroot, (hreach root).mp (Graph.mem_reachableFrom_iff.mp hid).2⟩
  · rintro ⟨root, hroot, hid⟩
    have hmem : id ∈ w.graph.reachableFrom root :=
      Graph.mem_reachableFrom_iff.mpr ⟨hroots (mem_roots.mpr hroot), (hreach root).mpr hid⟩
    exact ⟨reachableFrom_subset hedges root hmem, root, hroot, hmem⟩

/-- In a workflow whose references lead to nodes, the search finds no cycle exactly if there is none. -/
theorem cycle?_reachable (hroots : w.roots ⊆ w.nodeIds) :
    w.graph.cycle? w.reachable = none ↔ ∀ id, w.Reachable id → ¬Relation.TransGen w.Follows id id := by
  have hmem : ∀ id, id ∈ w.reachable ↔ w.Reachable id := fun id => mem_reachable_iff hsources hedges hroots
  have hclosed : ∀ n ∈ w.reachable, w.graph.successors n ⊆ w.reachable := by
    intro n hn s hs
    obtain ⟨root, hroot, hreach⟩ := (hmem n).mp hn
    exact (hmem s).mpr ⟨root, hroot, hreach.tail ((mem_graph_successors hsources).mp hs)⟩
  have hsource : ∀ e ∈ w.graph.edges, e.1 ∈ w.graph.nodes := by
    intro e he
    obtain ⟨r, hr, -⟩ := mem_graph_edges.mp he
    exact (hedges _ hr).1
  have htarget : ∀ e ∈ w.graph.edges, e.2 ∈ w.graph.nodes := by
    intro e he
    obtain ⟨r, hr, ht⟩ := mem_graph_edges.mp he
    exact (hedges _ hr).2 _ ht
  have hscope : w.reachable ⊆ w.graph.nodes := fun id hid => (List.mem_filter.mp hid).1
  rw [Graph.cycle?_eq_none_iff hclosed hscope hsource htarget, graph_step hsources]
  exact forall_congr' fun id => by rw [hmem id]

theorem checkRoutings_reachable (hroots : w.roots ⊆ w.nodeIds) : w.checkRoutings w.reachable = .ok () ↔
    (∀ id ts, w.Reachable id → w.routing id = .branch ts → ts.length = 2) ∧
      ∀ id ts, w.Reachable id → w.routing id = .select ts → ts ≠ [] := by
  simp only [checkRoutings_eq_ok, routingFault?_eq_none, mem_reachable_iff hsources hedges hroots]
  constructor
  · intro h
    exact ⟨fun id ts hid hts => (h id hid).1 ts hts, fun id ts hid hts => (h id hid).2 ts hts⟩
  · rintro ⟨hbranch, hselect⟩ id hid
    exact ⟨fun ts hts => hbranch id ts hid hts, fun ts hts => hselect id ts hid hts⟩

end

/-! ## Validation -/

theorem valid_of_validate (hsources : (w.edges.map (·.1)).Nodup) (h : w.validate cal = .ok ()) : w.Valid cal := by
  obtain ⟨hstart, hedges, hnodes, hcycle, hroutings⟩ := validate_eq_ok.mp h
  have hedges := checkEdges_eq_ok.mp hedges
  have hnodes : ∀ n ∈ w.nodes, _ := fun n hn => checkNode_eq_ok.mp (checkNodes_eq_ok.mp hnodes n hn)
  have hroots : w.roots ⊆ w.nodeIds := roots_subset (fun n hn => (hnodes n hn).1) hstart
  obtain ⟨hbranch, hselect⟩ := (checkRoutings_reachable hsources hedges hroots).mp hroutings
  exact {
    start := hstart
    sources := fun e he => (hedges e he).1
    targets := fun e he => (hedges e he).2
    handlers := fun n hn => (hnodes n hn).1
    timers := fun n hn => (hnodes n hn).2
    acyclic := (cycle?_reachable hsources hedges hroots).mp hcycle
    branches := hbranch
    selections := hselect }

theorem Valid.validate (hsources : (w.edges.map (·.1)).Nodup) (h : w.Valid cal) : w.validate cal = .ok () := by
  have hedges : ∀ e ∈ w.edges, e.1 ∈ w.nodeIds ∧ ∀ t ∈ e.2.targets, t ∈ w.nodeIds :=
    fun e he => ⟨h.sources e he, h.targets e he⟩
  have hroots : w.roots ⊆ w.nodeIds := roots_subset h.handlers h.start
  refine validate_eq_ok.mpr ⟨h.start, checkEdges_eq_ok.mpr hedges, checkNodes_eq_ok.mpr ?_, ?_, ?_⟩
  · exact fun n hn => checkNode_eq_ok.mpr ⟨h.handlers n hn, h.timers n hn⟩
  · exact (cycle?_reachable hsources hedges hroots).mpr h.acyclic
  · exact (checkRoutings_reachable hsources hedges hroots).mpr ⟨h.branches, h.selections⟩

theorem roots_eq_cons : ∃ rest, w.roots = w.startNode :: rest ∧
    rest.Pairwise fun a b => (w.timers.filterMap Node.handler).idxOf a < (w.timers.filterMap Node.handler).idxOf b := by
  refine ⟨_, by rw [roots, List.eraseDups_cons], ?_⟩
  refine (pairwise_eraseDups _).imp_of_mem ?_
  intro a b ha hb hlt
  have ha := (List.mem_filter.mp (List.mem_eraseDups.mp ha)).2
  have hb := (List.mem_filter.mp (List.mem_eraseDups.mp hb)).2
  exact idxOf_lt_of_filter ha hb hlt

/-- A workflow compiles exactly if it is valid, and then its roots are the start node and
after it, each once and as first declared, the handlers of its timers. -/
theorem compile_iff_valid (cal : Calendar) (hsources : (w.edges.map (·.1)).Nodup) :
    (w.validate cal = .ok () ↔ w.Valid cal) ∧
    (w.Valid cal → ∃ flow, w.compile cal = .ok flow ∧ flow.workflow = w ∧ ∃ rest, flow.roots = w.startNode :: rest ∧
      flow.roots.Nodup ∧ (∀ id, id ∈ flow.roots ↔ w.IsRoot id) ∧ rest.Pairwise fun a b =>
        (w.timers.filterMap Node.handler).idxOf a < (w.timers.filterMap Node.handler).idxOf b) := by
  refine ⟨⟨valid_of_validate hsources, Valid.validate hsources⟩, ?_⟩
  intro h
  obtain ⟨rest, hrest, horder⟩ := roots_eq_cons (w := w)
  have hv := h.validate hsources
  refine ⟨⟨w, cal, hv⟩, compile_eq_ok.mpr ⟨hv, rfl⟩, rfl, rest, hrest, ?_, fun id => mem_roots, horder⟩
  exact Graph.nodup_eraseDups _

end Workflow

/-! ## A workflow with a timer -/

namespace Ticking

def workflow : Workflow :=
  { Workflow.empty "" "first" with
    nodes := [⟨"first", "set", "first", [], none⟩,
      ⟨"tick", "timer", "tick", [("schedule", .string "0 */5 * * * *"), ("timezone", .string "Europe/Berlin")], some "work"⟩,
      ⟨"work", "if", "work", [("condition", .bool true)], none⟩, ⟨"yes", "set", "yes", [], none⟩,
      ⟨"no", "set", "no", [], none⟩]
    edges := [("first", .fanOut ["yes"]), ("work", .branch ["yes", "no"])] }

end Ticking

set_option maxRecDepth 20000 in
theorem Workflow.compile_iff_valid_ticking : (Ticking.workflow.edges.map (·.1)).Nodup ∧ Ticking.workflow.Valid .standard ∧
    ∃ flow, Ticking.workflow.compile .standard = .ok flow ∧ flow.roots = ["first", "work"] := by
  have hsources : (Ticking.workflow.edges.map (·.1)).Nodup := by decide
  have hok : (Ticking.workflow.validate .standard).toOption = some () := by decide +kernel
  have hvalid := eq_ok_of_toOption hok
  have hroots : Ticking.workflow.roots = ["first", "work"] := by decide
  obtain ⟨hiff, hcompile⟩ := Workflow.compile_iff_valid .standard hsources
  obtain ⟨flow, hflow, hw, -⟩ := hcompile (hiff.mp hvalid)
  exact ⟨hsources, hiff.mp hvalid, flow, hflow, by rw [CompiledWorkflow.roots, hw, hroots]⟩

end FlowEngine
