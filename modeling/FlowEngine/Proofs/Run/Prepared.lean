import Mathlib
import FlowEngine.Catalog
import FlowEngine.Engine
import FlowEngine.Proofs.Run.Progress
import FlowEngine.Proofs.Workflow.Checked

/-!
# Runs about to start

A run of a compiled workflow starts from any of its nodes (`Engine.Launched`) and
is sound from there on. What the engine executes is such a run with the events that
bring it to its end (`of_executeFrom`). If the workflow is that of a document
(`Engine.Prepared`), its edges agree with its graph, so more is known of readiness
(`sound_from`), and from one of the roots it is in balance (`sound`).
-/

namespace FlowEngine

open Readiness (Links)

/-! ## Preparation -/

namespace Engine

variable {w : Workflow} {scope : List String}

theorem prepareNode_id {env : Environment} {n m : Node} (h : prepareNode w env n = .ok m) : m.id = n.id := by
  simp only [prepareNode] at h
  split at h
  · cases h
  · cases h; rfl

theorem prepareNodes_ids {env : Environment} : ∀ {ns ms : List Node}, ns.mapM (prepareNode w env) = .ok ms →
    ms.map Node.id = ns.map Node.id
  | [], ms, h => by cases h; rfl
  | n :: ns, ms, h => by
    rw [List.mapM_cons] at h
    obtain ⟨m, hm, h⟩ := bind_eq_ok.mp h
    obtain ⟨ms', hms, h⟩ := bind_eq_ok.mp h
    cases h
    rw [List.map_cons, List.map_cons, prepareNode_id hm, prepareNodes_ids hms]

theorem bindParameters_results {store : Store} : ∀ {declared : List (String × Document.Value)} {given : Entries Json}
    {c c' : Context}, bindParameters w store declared given c = .ok c' → c'.results = c.results
  | [], given, c, c', h => by cases h; rfl
  | (name, default) :: rest, given, c, c', h => by
    simp only [bindParameters] at h
    split at h
    · rename_i v _
      exact bindParameters_results (c := { c with parameters := c.parameters.insert name v }) h
    · obtain ⟨v, -, h⟩ := bind_eq_ok.mp h
      exact bindParameters_results (c := { c with parameters := c.parameters.insert name v }) h

theorem prepare_spec {store : Store} {given : Entries Json} {c c' : Context} {nodes : List Node}
    (h : prepare w scope store given c = .ok (nodes, c')) :
    nodes.map Node.id = (w.nodes.filter fun n => scope.contains n.id).map Node.id ∧ c'.results = c.results := by
  obtain ⟨ns, hns, h⟩ := bind_eq_ok.mp h
  obtain ⟨c1, hc, h⟩ := bind_eq_ok.mp h
  cases h
  exact ⟨prepareNodes_ids hns, bindParameters_results hc⟩

end Engine

/-! ## Scopes -/

section
variable {w : Workflow} (hw : w.Checked) {root : String}
include hw

theorem links_of_checked (root : String) :
    Links (w.graph.reachableFrom root) w.successors w.graph.predecessors where
  once := Graph.nodup_reachableFrom root
  distinct := Graph.nodup_predecessors
  agree := fun p _ n => by rw [Graph.mem_predecessors, Workflow.mem_graph_successors hw.sources]
  closed := fun p hp n hn =>
    Graph.reachableFrom_closed hp ((Workflow.mem_graph_successors hw.sources).mpr hn)

omit hw in
theorem exists_before {n : String} (hn : n ∈ w.graph.reachableFrom root) (hne : n ≠ root) :
    ∃ p ∈ w.graph.reachableFrom root, n ∈ w.graph.successors p := by
  obtain ⟨hnode, hreach⟩ := Graph.mem_reachableFrom_iff.mp hn
  rcases hreach.cases_tail with he | ⟨p, hp, hpn⟩
  · exact absurd he hne
  · exact ⟨p, Graph.mem_reachableFrom_iff.mpr ⟨hnode, hp⟩, hpn⟩

theorem rooted_start (hroot : root ∈ w.nodeIds) : Readiness.Rooted (w.graph.reachableFrom root) w.successors
    w.graph.predecessors root (.initial (w.graph.reachableFrom root) w.graph.predecessors root) := by
  refine Readiness.rooted_initial (links_of_checked hw root) (Graph.mem_reachableFrom_iff.mpr ⟨hroot, .refl⟩) ?_
  intro n hn hne
  obtain ⟨p, hp, hpn⟩ := exists_before hn hne
  exact ⟨p, hp, (Workflow.mem_graph_successors hw.sources).mp hpn⟩

variable (hroot : root ∈ w.roots)
include hroot

theorem root_mem_scope : root ∈ w.graph.reachableFrom root :=
  Graph.mem_reachableFrom_iff.mpr ⟨Workflow.roots_subset hw.handlers hw.start hroot, .refl⟩

theorem scope_ordered : ∃ order, Graph.Ordered w.graph order ∧ w.graph.reachableFrom root ⊆ order := by
  obtain ⟨order, horder, hsub⟩ := hw.acyclic
  exact ⟨order, horder, List.Subset.trans (Workflow.reachableFrom_root hw.edges hroot) hsub⟩

theorem balanced_start : Readiness.Balanced (w.graph.reachableFrom root) w.graph.predecessors [] []
    (.initial (w.graph.reachableFrom root) w.graph.predecessors root) := by
  have hmem := root_mem_scope hw hroot
  obtain ⟨order, horder, hsub⟩ := scope_ordered hw hroot
  refine Readiness.balanced_initial (links_of_checked hw root) hmem ?_ ?_
  · intro p hp hs
    exact horder.acyclic root (hsub hmem) p ((Workflow.mem_graph_successors hw.sources).mpr hs)
      (Graph.mem_reachableFrom_iff.mp hp).2
  · intro n hn hne
    obtain ⟨p, hp, hpn⟩ := exists_before hn hne
    exact ⟨p, hp, (Workflow.mem_graph_successors hw.sources).mp hpn⟩

end

section
variable {w : Workflow} {root : String} {store : Store} {given : Entries Json} {c c' : Context} {nodes : List Node}
  (h : Engine.prepare w (w.graph.reachableFrom root) store given c = .ok (nodes, c'))
include h

theorem prepared_ids (hids : w.nodeIds.Nodup) : (nodes.map Node.id).Nodup := by
  rw [(Engine.prepare_spec h).1]
  exact hids.sublist (List.filter_sublist.map _)

section
variable (hedges : ∀ e ∈ w.edges, e.1 ∈ w.nodeIds ∧ ∀ t ∈ e.2.targets, t ∈ w.nodeIds)
include hedges

theorem scope_subset_prepared : w.graph.reachableFrom root ⊆ nodes.map Node.id := by
  intro id hid
  obtain ⟨n, hn, rfl⟩ := List.mem_map.mp (Workflow.reachableFrom_subset hedges root hid)
  rw [(Engine.prepare_spec h).1]
  exact List.mem_map.mpr ⟨n, List.mem_filter.mpr ⟨hn, by simpa using hid⟩, rfl⟩

theorem scope_prepared {e : Engine} {host : Host} :
    ∀ id ∈ w.graph.reachableFrom root, ((e.plan w nodes host).node? id).isSome = true := by
  intro id hid
  obtain ⟨n, hn, rfl⟩ := List.mem_map.mp (scope_subset_prepared h hedges hid)
  simp only [Plan.node?, List.find?_isSome]
  exact ⟨n, hn, by simp⟩

end

theorem covers_of_prepare (hw : w.Checked) {e : Engine} {host : Host} :
    (e.plan w nodes host).Covers (w.graph.reachableFrom root) :=
  ⟨links_of_checked hw root, scope_prepared h hw.edges⟩

end

theorem sound_start {inv : Readiness → Prop} {flow : CompiledWorkflow} {scope : List String} {root : String}
    (h : inv (.initial scope flow.graph.predecessors root)) (p : Plan) {c : Context} (hc : c.results = .empty)
    (store : Store) : (Engine.start flow scope root c store).Sound inv p := by
  have hnot (id : String) {t : NodeState} (ht : t ≠ .pending) :
      (Engine.start flow scope root c store).readiness.state.get? id ≠ some t := by
    have hstate : (Engine.start flow scope root c store).readiness.state.get? id
        = if id ∈ scope then some .pending else none := Readiness.initial_state id
    rw [hstate]
    split
    · simpa using ht.symm
    · simp
  refine
    { balanced := h
      recorded_iff := ?_
      orderOnce := ?_
      outcome := fun id f hm => by cases hm
      succeeded := fun id hs => absurd hs (hnot id (by simp))
      failed := fun id hs => absurd hs (hnot id (by simp))
      retryable := fun id phase hm => by cases hm
      once := List.nodup_nil
      started := fun id hm => by cases hm
      tracked := fun _ id hs => absurd hs (hnot id (by simp)) }
  · intro id
    have h1 := hnot id (t := .succeeded) (by simp)
    have h2 := hnot id (t := .failed) (by simp)
    simp only [h1, h2, false_or]
    show id ∈ c.results.order ↔ id ∈ Entries.keys ([] : Entries Finished)
    rw [hc]
    simp [Results.order, Results.empty, Entries.keys]
  · show c.results.order.Nodup
    rw [hc]
    exact List.nodup_nil

theorem Engine.complete_run (e : Engine) {p : Plan} {scope : List String} {inv : Readiness → Prop}
    (hc : p.Maintains scope inv) {s : RunState} (h : s.Sound inv p) (ha : s.active = []) (hf : s.finished = [])
    (hfuel : (scope.map fun id => 4 * p.retries id + 6).sum + 4 ≤ p.rounds) :
    ∃ events, (s.run p events).isDone = true ∧
      e.complete p s = ⟨respond p (s.run p events), (s.run p events).store, (s.run p events).clock⟩ := by
  have hslots : 0 < e.slots p.workflow := Nat.lt_of_lt_of_le Nat.zero_lt_one (Nat.le_max_left _ _)
  have hpotential := (h.queue_potential hc).trans (RunState.potential_le ha hf)
  obtain ⟨events, hrun, hdone⟩ := RunState.simulate_done hc hslots p.rounds (h.queue hc) (RunState.queue_queued s) (by omega)
  refine ⟨.queue :: events, hdone, ?_⟩
  simp only [complete]
  rw [hrun]
  rfl

theorem Engine.complete_events (e : Engine) (p : Plan) (s : RunState) : ∃ events,
    e.complete p s = ⟨respond p (s.run p events), (s.run p events).store, (s.run p events).clock⟩ := by
  obtain ⟨events, hrun⟩ := RunState.simulate_run (p := p) (s := s.queue) (e.slots p.workflow) p.rounds
  refine ⟨.queue :: events, ?_⟩
  simp only [complete, hrun]
  rfl

/-! ## Launched runs -/

/-- A run of a compiled workflow, read or built, from one of its nodes, about to start. -/
structure Engine.Launched (e : Engine) (flow : CompiledWorkflow) (root : String) (p : Plan) (s : RunState) : Prop where
  known : root ∈ flow.workflow.nodeIds
  start : ∃ store given c c' nodes host, c.results = .empty ∧
    Engine.prepare flow.workflow (flow.graph.reachableFrom root) store given c = .ok (nodes, c') ∧
    p = e.plan flow.workflow nodes host ∧ s = Engine.start flow (flow.graph.reachableFrom root) root c' store

def Host.blank : Host := ⟨"", 0, fun _ => ""⟩

/-- The run that starts from a node with an empty store and without parameters, if the preparation
succeeds. -/
def Engine.launch? (e : Engine) (flow : CompiledWorkflow) (root : String) (c : Context) : Option (Plan × RunState) :=
  (prepare flow.workflow (flow.graph.reachableFrom root) .empty [] c).toOption.map fun r =>
    (e.plan flow.workflow r.1 .blank, start flow (flow.graph.reachableFrom root) root r.2 .empty)

def Engine.blankContext (e : Engine) (w : Workflow) (input : Invocation) : Context :=
  { workflow := w.name, parameters := [], request := input.request, environment := e.environment w input.environment,
    results := .empty }

namespace Engine.Launched

variable {e : Engine} {flow : CompiledWorkflow} {root : String} {p : Plan} {s : RunState}

theorem edges_known (flow : CompiledWorkflow) :
    ∀ x ∈ flow.workflow.edges, x.1 ∈ flow.workflow.nodeIds ∧ ∀ t ∈ x.2.targets, t ∈ flow.workflow.nodeIds := by
  obtain ⟨_, hvalid⟩ := flow.valid
  exact Workflow.checkEdges_eq_ok.mp (Workflow.validate_eq_ok.mp hvalid).2.1

theorem workflow_eq (h : e.Launched flow root p s) : p.workflow = flow.workflow := by
  obtain ⟨_, _, _, _, _, _, -, -, rfl, -⟩ := h.start
  rfl

theorem scope_known (h : e.Launched flow root p s) : flow.graph.reachableFrom root ⊆ p.workflow.nodeIds := by
  rw [h.workflow_eq]
  exact Workflow.reachableFrom_subset (edges_known flow) root

theorem maintains (h : e.Launched flow root p s) :
    p.Maintains (flow.graph.reachableFrom root) (p.Guard (flow.graph.reachableFrom root) root) := by
  obtain ⟨store, given, c, c', nodes, host, -, hprepare, rfl, -⟩ := h.start
  exact Plan.maintains_guard (Graph.nodup_reachableFrom root) (Graph.mem_reachableFrom_iff.mpr ⟨h.known, .refl⟩)
    (scope_prepared hprepare (edges_known flow))
    fun id _ _ hn => Graph.mem_predecessors.mpr (Workflow.successors_subset_graph id hn)

theorem sound (h : e.Launched flow root p s) : s.Sound (p.Guard (flow.graph.reachableFrom root) root) p := by
  have hflow := h.workflow_eq
  obtain ⟨store, given, c, c', nodes, host, hempty, hprepare, -, rfl⟩ := h.start
  refine sound_start ?_ p ((prepare_spec hprepare).2.trans hempty) store
  rw [Plan.Guard, hflow]
  exact .inl rfl

theorem start_empty (h : e.Launched flow root p s) : s.context.results.order = [] ∧ s.active = [] := by
  obtain ⟨store, given, c, c', nodes, host, hempty, hprepare, -, rfl⟩ := h.start
  refine ⟨?_, rfl⟩
  show c'.results.order = []
  rw [(prepare_spec hprepare).2, hempty]
  rfl

theorem exists_of_launch? {c : Context} {check : Plan × RunState → Bool} (hknown : root ∈ flow.workflow.nodeIds)
    (hc : c.results = .empty) (h : (e.launch? flow root c).any check = true) :
    ∃ p s, e.Launched flow root p s ∧ check (p, s) = true := by
  unfold launch? at h
  cases hp : Engine.prepare flow.workflow (flow.graph.reachableFrom root) .empty [] c with
  | error err => rw [hp] at h; cases h
  | ok r =>
    rw [hp] at h
    exact ⟨_, _, ⟨hknown, .empty, [], c, r.2, r.1, .blank, hc, hp, rfl, rfl⟩, h⟩

/-- What executing from a node comes to: the node is unknown, the preparation fails, or a run is
launched, unless it cannot start. -/
theorem executeFrom_eq (e : Engine) (flow : CompiledWorkflow) (root : String) (input : Invocation) (host : Host)
    (store : Store) :
    (root ∉ flow.workflow.nodeIds ∧ e.executeFrom flow root input host store =
      .ok ⟨.rejected flow.workflow.name (.danglingReference "root" root), store, 0⟩) ∨
    root ∈ flow.workflow.nodeIds ∧
      ((∃ err, Engine.prepare flow.workflow (flow.graph.reachableFrom root) store input.parameters
          (e.blankContext flow.workflow input) = .error err ∧
        e.executeFrom flow root input host store = .ok ⟨.rejected flow.workflow.name err, store, 0⟩) ∨
      ∃ nodes c', Engine.prepare flow.workflow (flow.graph.reachableFrom root) store input.parameters
          (e.blankContext flow.workflow input) = .ok (nodes, c') ∧
        e.executeFrom flow root input host store =
          match e.startFault? flow.workflow host with
          | some fault => .error fault
          | none => .ok (e.complete (e.plan flow.workflow nodes host)
              (Engine.start flow (flow.graph.reachableFrom root) root c' store))) := by
  unfold executeFrom
  by_cases hroot : root ∈ flow.workflow.nodeIds
  · have hmem : root ∈ flow.graph.reachableFrom root := Graph.mem_reachableFrom_iff.mpr ⟨hroot, .refl⟩
    have hscope : (flow.graph.reachableFrom root).isEmpty = false := by
      cases hlist : flow.graph.reachableFrom root with
      | nil => rw [hlist] at hmem; cases hmem
      | cons id ids => rfl
    refine .inr ⟨hroot, ?_⟩
    simp only [hscope]
    cases hprepare : Engine.prepare flow.workflow (flow.graph.reachableFrom root) store input.parameters
        (e.blankContext flow.workflow input) with
    | error err =>
      rw [blankContext] at hprepare
      exact .inl ⟨err, rfl, by simp [hprepare]⟩
    | ok r =>
      rw [blankContext] at hprepare
      refine .inr ⟨r.1, r.2, rfl, ?_⟩
      simp only [hprepare]
      cases e.startFault? flow.workflow host <;> rfl
  · have hscope : flow.graph.reachableFrom root = [] :=
      List.eq_nil_iff_forall_not_mem.mpr fun id hid => hroot (Graph.mem_reachableFrom_iff.mp hid).1
    exact .inl ⟨hroot, by simp [hscope]⟩

theorem of_prepare {input : Invocation} {store : Store} {nodes : List Node} {c' : Context} (hroot : root ∈ flow.workflow.nodeIds)
    (h : Engine.prepare flow.workflow (flow.graph.reachableFrom root) store input.parameters
      (e.blankContext flow.workflow input) = .ok (nodes, c')) (host : Host) :
    e.Launched flow root (e.plan flow.workflow nodes host)
      (Engine.start flow (flow.graph.reachableFrom root) root c' store) :=
  ⟨hroot, store, input.parameters, _, c', nodes, host, rfl, h, rfl, rfl⟩

theorem executeFrom_cases (hids : flow.workflow.nodeIds.Nodup) {input : Invocation} {host : Host} {store : Store}
    {done : Completion} (h : e.executeFrom flow root input host store = .ok done) :
    (root ∉ flow.workflow.nodeIds ∧ done = ⟨.rejected flow.workflow.name (.danglingReference "root" root), store, 0⟩) ∨
    (∃ c err, Engine.prepare flow.workflow (flow.graph.reachableFrom root) store input.parameters c = .error err ∧
      done = ⟨.rejected flow.workflow.name err, store, 0⟩) ∨
    ∃ p s events, e.Launched flow root p s ∧ (s.run p events).isDone = true ∧
      done = ⟨respond p (s.run p events), (s.run p events).store, (s.run p events).clock⟩ := by
  rcases executeFrom_eq e flow root input host store with
    ⟨hroot, he⟩ | ⟨hroot, ⟨err, hprepare, he⟩ | ⟨nodes, c', hprepare, he⟩⟩
  · rw [he] at h
    cases h
    exact .inl ⟨hroot, rfl⟩
  · rw [he] at h
    cases h
    exact .inr (.inl ⟨_, err, hprepare, rfl⟩)
  · rw [he] at h
    split at h
    · cases h
    · cases h
      have hlaunched := of_prepare hroot hprepare host
      obtain ⟨events, hdone, hcomplete⟩ := e.complete_run hlaunched.maintains hlaunched.sound rfl rfl
        (RunState.sum_le_rounds (prepared_ids hprepare hids) (Graph.nodup_reachableFrom root)
          (scope_subset_prepared hprepare (edges_known flow)))
      exact .inr (.inr ⟨_, _, events, hlaunched, hdone, hcomplete⟩)

theorem of_executeFrom (hids : flow.workflow.nodeIds.Nodup) {input : Invocation} {host : Host} {store : Store}
    {done : Completion} (h : e.executeFrom flow root input host store = .ok done) :
    (∃ err, done = ⟨.rejected flow.workflow.name err, store, 0⟩) ∨
      ∃ p s events, e.Launched flow root p s ∧ (s.run p events).isDone = true ∧
        done = ⟨respond p (s.run p events), (s.run p events).store, (s.run p events).clock⟩ := by
  rcases executeFrom_cases hids h with ⟨-, he⟩ | ⟨-, err, -, he⟩ | hrun
  · exact .inl ⟨_, he⟩
  · exact .inl ⟨err, he⟩
  · exact .inr hrun

end Engine.Launched

/-! ## Prepared runs -/

/-- A run of a compiled document from one of its nodes, about to start. -/
structure Engine.Prepared (e : Engine) (flow : CompiledWorkflow) (root : String) (p : Plan) (s : RunState) : Prop where
  compiled : ∃ cal text, CompiledWorkflow.ofDocument cal text = .ok flow
  known : root ∈ flow.workflow.nodeIds
  start : ∃ store given c c' nodes host, c.results = .empty ∧
    Engine.prepare flow.workflow (flow.graph.reachableFrom root) store given c = .ok (nodes, c') ∧
    p = e.plan flow.workflow nodes host ∧ s = Engine.start flow (flow.graph.reachableFrom root) root c' store

namespace Engine.Prepared

variable {e : Engine} {flow : CompiledWorkflow} {root : String} {p : Plan} {s : RunState}

theorem checked (h : e.Prepared flow root p s) : flow.workflow.Checked := by
  obtain ⟨cal, text, ht⟩ := h.compiled
  exact CompiledWorkflow.ofDocument_checked ht

theorem launched (h : e.Prepared flow root p s) : e.Launched flow root p s := ⟨h.known, h.start⟩

theorem workflow_eq (h : e.Prepared flow root p s) : p.workflow = flow.workflow := h.launched.workflow_eq

theorem covers (h : e.Prepared flow root p s) : p.Covers (flow.graph.reachableFrom root) := by
  obtain ⟨store, given, c, c', nodes, host, -, hprepare, rfl, -⟩ := h.start
  exact covers_of_prepare hprepare h.checked

theorem scope_known (h : e.Prepared flow root p s) : flow.graph.reachableFrom root ⊆ p.workflow.nodeIds :=
  h.launched.scope_known

theorem sound_from (h : e.Prepared flow root p s) : s.Sound (p.BalanceFrom (flow.graph.reachableFrom root) root) p := by
  have hflow := h.workflow_eq
  obtain ⟨store, given, c, c', nodes, host, hempty, hprepare, -, rfl⟩ := h.start
  refine sound_start ?_ p ((prepare_spec hprepare).2.trans hempty) store
  rw [Plan.BalanceFrom, hflow]
  exact rooted_start h.checked h.known

theorem sound (h : e.Prepared flow root p s) (hroot : root ∈ flow.roots) :
    s.Sound (p.Balance (flow.graph.reachableFrom root)) p := by
  have hflow := h.workflow_eq
  obtain ⟨store, given, c, c', nodes, host, hempty, hprepare, -, rfl⟩ := h.start
  refine sound_start ?_ p ((prepare_spec hprepare).2.trans hempty) store
  rw [Plan.Balance, hflow]
  exact balanced_start h.checked hroot

theorem of_executeFrom {cal : Calendar} {text : String} (htext : CompiledWorkflow.ofDocument cal text = .ok flow)
    {input : Invocation} {host : Host} {store : Store} {done : Completion} (h : e.executeFrom flow root input host store = .ok done) :
    (∃ err, done = ⟨.rejected flow.workflow.name err, store, 0⟩) ∨
      ∃ p s events, e.Prepared flow root p s ∧ (s.run p events).isDone = true ∧
        done = ⟨respond p (s.run p events), (s.run p events).store, (s.run p events).clock⟩ := by
  have hw := CompiledWorkflow.ofDocument_checked htext
  refine (Launched.of_executeFrom hw.ids h).imp_right ?_
  rintro ⟨p, s, events, hlaunched, hend⟩
  exact ⟨p, s, events, ⟨⟨cal, text, htext⟩, hlaunched.known, hlaunched.start⟩, hend⟩

end Engine.Prepared

end FlowEngine
