import Mathlib
import FlowEngine.Proofs.Run.Order

/-!
# Counters and queues are exact

In balance each counter is the number of predecessors that are still open
(`Balanced.count_open`). A release of the balance finds a counter above zero, so
counting that refuses to go below it comes to the same (`Balanced.settle?_eq`), and
what is ready joins one end of a queue and leaves at the other
(`Sound.queue_kept`), each node once (`Sound.nodup_pushed`).
-/

namespace FlowEngine

namespace Readiness

/-! ## Counting that refuses to go below zero -/

def release? (acc : Readiness × List String) (id : String) : Option (Readiness × List String) :=
  if acc.1.waiting.get? id = some 0 then none else some (release acc id)

def cascade? (successors : String → List String) : Nat → List String → Readiness → Option Readiness
  | 0, _, r => some r
  | _, [], r => some r
  | fuel + 1, id :: todo, r => do
    let (r, todo) ← (successors id).eraseDups.foldlM release? (r, todo)
    cascade? successors fuel todo r

def settle? (successors : String → List String) (r : Readiness) (id : String) (s : NodeState) : Option Readiness :=
  cascade? successors (r.state.length + 2) [id] (r.setState id s)

section
variable {scope : List String} {successors predecessors : String → List String}
  {todo owed : List String} {r : Readiness}

theorem Balanced.release?_eq {n : String} (h : Balanced scope predecessors todo (n :: owed) r) (hn : n ∈ scope) :
    release? (r, todo) n = some (Readiness.release (r, todo) n) := by
  have hcount := h.count n hn
  rw [List.count_cons_self, ← Nat.add_assoc] at hcount
  rw [release?, if_neg]
  simp [hcount]

theorem Balanced.releases?_eq : ∀ {owed todo : List String} {r : Readiness}, owed ⊆ scope →
    Balanced scope predecessors todo owed r →
    owed.foldlM release? (r, todo) = some (owed.foldl Readiness.release (r, todo))
  | [], _, _, _, _ => rfl
  | n :: owed, todo, r, hsub, h => by
    obtain ⟨hn, hrest⟩ := List.cons_subset.mp hsub
    rw [List.foldlM_cons, h.release?_eq hn]
    exact releases?_eq hrest (h.release hn)

section
variable (hl : Links scope successors predecessors)
include hl

theorem Balanced.cascade?_eq : ∀ (fuel : Nat) {todo : List String} {r : Readiness},
    Balanced scope predecessors todo [] r →
    cascade? successors fuel todo r = some (Readiness.cascade successors fuel todo r)
  | 0, _, _, _ => rfl
  | _ + 1, [], _, _ => rfl
  | fuel + 1, id :: todo, r, h => by
    have hid := (h.settled id (by simp)).1
    have hsub : (successors id).eraseDups ⊆ scope := fun n hn => hl.closed id hid (List.mem_eraseDups.mp hn)
    have hpop := h.pop hl
    have hnext := (Balanced.releases (P := fun _ => True) (fun _ _ h => h) hl.once hsub hpop trivial).1
    rw [cascade?, hpop.releases?_eq hsub]
    exact cascade?_eq fuel hnext

theorem Balanced.settle?_eq {id : String} {s : NodeState} (h : Balanced scope predecessors [] [] r)
    (hid : r.state.get? id = some .started) (hs : s = .succeeded ∨ s = .failed) :
    settle? successors r id s = some (Readiness.settle successors r id s) :=
  (h.closed hid hs).cascade?_eq hl _

end

/-! ## What the counters count -/

theorem Balanced.count_open (h : Balanced scope predecessors [] [] r) (hdistinct : ∀ n, (predecessors n).Nodup)
    {n : String} (hn : n ∈ scope) : r.waiting.get? n
      = some (scope.toFinset.filter fun q => q ∈ predecessors n ∧ r.isOpen q = true).card := by
  have howed : r.isOwed [] = r.isOpen := funext fun q => by simp [isOwed]
  have hset : scope.toFinset.filter (fun q => q ∈ predecessors n ∧ r.isOpen q = true)
      = ((before scope predecessors n).filter r.isOpen).toFinset := by
    ext q
    simp only [before, Finset.mem_filter, List.mem_toFinset, List.mem_filter, List.contains_iff_mem]
    tauto
  have hnodup : ((before scope predecessors n).filter r.isOpen).Nodup := ((hdistinct n).filter _).filter _
  rw [h.count n hn, howed, List.count_nil, Nat.add_zero, List.countP_eq_length_filter, hset,
    List.toFinset_card_of_nodup hnodup]

omit r in
theorem settle_appends (successors : String → List String) (r : Readiness) (id : String) (s : NodeState) :
    r.ready <+: (Readiness.settle successors r id s).ready := by
  refine cascade_keeps (P := fun r' => r.ready <+: r'.ready) ?_ _ _ (List.prefix_refl _)
  intro r' todo n h
  simp only [Readiness.release]
  split
  · exact h
  split
  · exact h
  split
  · exact h.trans (List.prefix_append _ _)
  · exact h

end

end Readiness

namespace RunState

def targets (p : Plan) (id : String) (r : NodeResult) : List String :=
  match (p.workflow.node? id).map fun n => route n r (p.workflow.routing id) with
  | some (.ok ids) => ids
  | _ => []

/-- The readiness once a node that finished is taken into account, if no counter would
have to go below zero. -/
def handle? (p : Plan) (s : RunState) (id : String) : Option Readiness :=
  match s.finished.get? id with
  | none => some s.readiness
  | some (.failed _) => s.readiness.settle? p.workflow.successors id .failed
  | some (.succeeded r) => (s.readiness.activate (targets p id r)).settle? p.workflow.successors id .succeeded

/-- The nodes that join the queue of those that are ready. -/
def pushes (p : Plan) (s : RunState) (event : Event) : List String :=
  (s.step p event).readiness.ready.drop s.readiness.ready.length

theorem targets_subset (p : Plan) (id : String) (r : NodeResult) : targets p id r ⊆ p.workflow.successors id := by
  unfold targets
  split
  · rename_i ids h
    obtain ⟨n, -, hroute⟩ := Option.map_eq_some_iff.mp h
    exact route_subset hroute
  · exact List.nil_subset _

theorem Settled.readiness_eq {p : Plan} {s s' : RunState} {id : String} {f : Finished} (h : Settled p s id f s') :
    s'.readiness = match f with
      | .failed _ => s.readiness.settle p.workflow.successors id .failed
      | .succeeded r => (s.readiness.activate (targets p id r)).settle p.workflow.successors id .succeeded := by
  cases h with
  | failed e => rfl
  | routed hn hr => simp [targets, hn, hr]
  | misrouted hn hr => simp [targets, hn, hr, Readiness.activate_nil]
  | unknown hn => simp [targets, hn, Readiness.activate_nil]

/-! ## Handling -/

section
variable {p : Plan} {scope : List String} {s : RunState}

theorem Sound.handle?_eq (hc : p.Covers scope) (h : Sound (p.Balance scope) p s) (id : String) :
    s.handle? p id = some (s.handle p id).readiness := by
  rcases handle_cases p s id with ⟨hnone, he⟩ | ⟨f, hget, hsettled⟩
  · rw [handle?, hnone, he]
  · have hid : s.readiness.state.get? id = some .started :=
      h.started id (List.mem_append_right _ (Entries.mem_keys_of_get? hget))
    rw [handle?, hget, hsettled.readiness_eq]
    cases f with
    | failed e => exact h.balanced.settle?_eq hc.links hid (.inr rfl)
    | succeeded r =>
      have hactivated := h.balanced.activate_successors hc.links hid (targets_subset p id r)
      exact hactivated.settle?_eq hc.links hid (.inl rfl)

end

/-! ## The queue -/

section
variable {inv : Readiness → Prop} {p : Plan} {scope : List String} {s : RunState} (hc : p.Maintains scope inv)

theorem handle_appends (p : Plan) (s : RunState) (id : String) :
    s.readiness.ready <+: (s.handle p id).readiness.ready := by
  rcases handle_cases p s id with ⟨-, he⟩ | ⟨f, -, hsettled⟩
  · rw [he]
  · rw [hsettled.readiness_eq]
    cases f with
    | failed e => exact Readiness.settle_appends ..
    | succeeded r => exact Readiness.settle_appends _ (s.readiness.activate _) _ _

include hc

theorem Sound.queue_step (h : Sound inv p s) (event : Event) :
    s.readiness.ready ++ s.pushes p event = s.starts event ++ (s.step p event).readiness.ready := by
  have hsame (hr : (s.step p event).readiness = s.readiness) (hs : s.starts event = []) :
      s.readiness.ready ++ s.pushes p event = s.starts event ++ (s.step p event).readiness.ready := by
    rw [pushes, hr, hs, List.drop_length, List.append_nil, List.nil_append]
  have hstep := h.stepped hc event
  generalize hs' : s.step p event = s' at hstep hsame ⊢
  cases hstep with
  | rests hidle =>
    refine hsame rfl ?_
    cases event with
    | queue => exact if_pos hidle
    | _ => rfl
  | queues hrun =>
    have hnone : s.readiness.start.2.ready = [] := (Readiness.start_fields _).2.2.1
    simp only [pushes, hs', starts, hrun, hnone, Bool.false_eq_true, if_false, List.drop_nil]
  | begins hline hrun hw hattempted => exact hsame hattempted.served.readiness rfl
  | wakes hphase hw hserved => exact hsame hserved.readiness rfl
  | @settles id f s' hget hsettled =>
    obtain ⟨joined, hjoined⟩ := handle_appends p s id
    have hnone : s.starts (.handle id) = [] := rfl
    rw [pushes, hnone, ← hs', RunState.step, ← hjoined, List.drop_left, List.nil_append]
  | _ => exact hsame rfl rfl

theorem Sound.queue_kept : ∀ (events : List Event) {s : RunState}, Sound inv p s →
    s.readiness.ready ++ s.log (pushes p) p events = s.log starts p events ++ (s.run p events).readiness.ready
  | [], s, _ => List.append_nil _
  | event :: events, s, h => by
    have ih := queue_kept events (h.step hc event)
    calc s.readiness.ready ++ s.log (pushes p) p (event :: events)
        = (s.readiness.ready ++ s.pushes p event) ++ (s.step p event).log (pushes p) p events := by
          rw [log, List.append_assoc]
      _ = s.starts event ++ ((s.step p event).readiness.ready ++ (s.step p event).log (pushes p) p events) := by
          rw [h.queue_step hc event, List.append_assoc]
      _ = s.log starts p (event :: events) ++ (s.run p (event :: events)).readiness.ready := by
          rw [ih, log, List.append_assoc]
          rfl

theorem Sound.pending_back : ∀ (events : List Event) {s : RunState}, Sound inv p s → ∀ {id : String},
    (s.run p events).readiness.state.get? id = some .pending → s.readiness.state.get? id = some .pending
  | [], _, _, _, hp => hp
  | event :: events, _, h, _, hp => (h.waiting_back hc event).1 (pending_back events (h.step hc event) hp)

theorem Sound.not_pending : ∀ (events : List Event) {s : RunState}, Sound inv p s → ∀ {id : String},
    id ∈ s.log starts p events → (s.run p events).readiness.state.get? id ≠ some .pending
  | [], _, _, _, hid => by cases hid
  | event :: events, s, h, id, hid => by
    have hstep := h.step hc event
    rcases List.mem_append.mp hid with hid | hid
    · exact fun hp => (h.starts_pending hc hid).2 (hstep.pending_back hc events hp)
    · exact hstep.not_pending events hid

theorem Sound.nodup_pushed (h : Sound inv p s) (events : List Event) :
    (s.readiness.ready ++ s.log (pushes p) p events).Nodup := by
  have hend := h.run hc events
  rw [h.queue_kept hc events]
  refine List.nodup_append.mpr ⟨h.nodup_starts hc events, hc.readyNodup _ hend.balanced, ?_⟩
  rintro id hid _ hready rfl
  exact h.not_pending hc events hid (hc.ready _ hend.balanced id hready)

end

end RunState

/-- In a run from one of the roots, after whatever events: the counter of each node that the
root reaches is the number of its predecessors there that have not settled, a pending node that
waits for none is in the queue, and settling whatever finished takes no counter below zero.
Whatever the events, no node has joined the queue twice, and what joined it has been handed out in
that order or is still there. -/
theorem Engine.Prepared.counters_exact {e : Engine} {flow : CompiledWorkflow} {root : String} {p : Plan} {s : RunState}
    (h : e.Prepared flow root p s) (hroot : root ∈ flow.roots) (events : List RunState.Event) :
    (∀ n ∈ flow.graph.reachableFrom root, (s.run p events).readiness.waiting.get? n
      = some ((flow.graph.reachableFrom root).toFinset.filter fun q =>
          q ∈ flow.graph.predecessors n ∧ (s.run p events).readiness.isOpen q = true).card) ∧
    (∀ n, (s.run p events).readiness.state.get? n = some .pending →
      (s.run p events).readiness.waiting.get? n = some 0 → n ∈ (s.run p events).readiness.ready) ∧
    (∀ id, (s.run p events).handle? p id = some ((s.run p events).handle p id).readiness) ∧
    (root :: s.log (RunState.pushes p) p events).Nodup ∧
    root :: s.log (RunState.pushes p) p events
      = s.log RunState.starts p events ++ (s.run p events).readiness.ready := by
  have hready : [root] = s.readiness.ready := by
    obtain ⟨_, _, _, _, _, _, -, -, -, rfl⟩ := h.start
    rfl
  have hc := h.covers
  have hstart := h.sound hroot
  have hsound := hstart.run hc.maintains events
  have hgraph : flow.graph = p.workflow.graph := by rw [h.workflow_eq]; rfl
  rw [← List.singleton_append, hready]
  refine ⟨?_, ?_, fun id => hsound.handle?_eq hc id, hstart.nodup_pushed hc.maintains events, ?_⟩
  · intro n hn
    rw [hgraph]
    rw [hgraph] at hn hsound
    exact hsound.balanced.count_open hc.links.distinct hn
  · exact fun n hp hw => (hsound.balanced.ready_iff n).mpr ⟨hp, hw⟩
  · exact hstart.queue_kept hc.maintains events

theorem Engine.Prepared.counters_exact_decision : ∃ p s events, Decision.engine.Prepared Decision.flow "ask" p s ∧
    "ask" ∈ Decision.flow.roots ∧ (s.run p events).isDone = true ∧
    (∀ n ∈ Decision.flow.graph.reachableFrom "ask", (s.run p events).readiness.waiting.get? n
      = some ((Decision.flow.graph.reachableFrom "ask").toFinset.filter fun q =>
          q ∈ Decision.flow.graph.predecessors n ∧ (s.run p events).readiness.isOpen q = true).card) ∧
    (∀ id, (s.run p events).handle? p id = some ((s.run p events).handle p id).readiness) ∧
    ("ask" :: s.log (RunState.pushes p) p events).Nodup := by
  obtain ⟨p, s, h, -⟩ := Decision.ended
  obtain ⟨s₀, events, hp, rfl⟩ := h.prepared
  obtain ⟨hcount, -, hhandle, honce, -⟩ := hp.counters_exact h.rooted events
  exact ⟨p, s₀, events, hp, h.rooted, h.done, hcount, hhandle, honce⟩

end FlowEngine
