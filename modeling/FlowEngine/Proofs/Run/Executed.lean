import Mathlib
import FlowEngine.Proofs.Run.Accounting
import FlowEngine.Proofs.Workflow.Reordered

/-!
# Who runs

Given what each node comes to, the nodes that run are the least set that holds
the root and all that its members route to (`Workflow.Executes`); the others that
the root reaches are skipped. Nothing in this depends on the order of events, on
slots, inputs or where the sections of the document stand, as long as the first
section on a node stays the first (`executed_iff`).
-/

namespace FlowEngine

/-- The nodes that run when each comes to the given outcome: a result with which it
succeeds, or none if it fails. -/
inductive Workflow.Executes (w : Workflow) (outcome : String → Option NodeResult) (root : String) : String → Prop
  | root : Executes w outcome root root
  | step {m id : String} {n : Node} {r : NodeResult} {ts : List String} (hm : Executes w outcome root m)
      (hr : outcome m = some r) (hn : w.node? m = some n) (ht : route n r (w.routing m) = .ok ts) (hid : id ∈ ts) :
      Executes w outcome root id

def Results.Agree (rs : Results) (outcome : String → Option NodeResult) : Prop :=
  ∀ id r, rs.get? id = some r → outcome id = if r.status.isOk then some r else none

/-- No node that the root reaches routes to an error. -/
def Workflow.Routes (w : Workflow) (outcome : String → Option NodeResult) (root : String) : Prop :=
  ∀ id n r, w.graph.Reaches root id → outcome id = some r → w.node? id = some n →
    ∃ ts, route n r (w.routing id) = .ok ts

namespace Workflow.Reordered

variable {w w' : Workflow} (h : w.Reordered w')
include h

theorem symm : w'.Reordered w := ⟨h.edges.symm, fun id => (h.node?_eq id).symm⟩

theorem reaches_iff {a b : String} : w'.graph.Reaches a b ↔ w.graph.Reaches a b := by
  have hsucc : w'.graph.successors = w.graph.successors := by
    funext n
    simp only [Graph.successors, graph, h.edges]
  simp only [Graph.Reaches, hsucc]

theorem routing_eq (id : String) : w'.routing id = w.routing id := by
  rw [routing, routing, h.edges]

theorem executes {outcome : String → Option NodeResult} {root id : String} (he : w'.Executes outcome root id) :
    w.Executes outcome root id := by
  induction he with
  | root => exact .root
  | step _ hr hn ht hid ih =>
    rw [h.node?_eq] at hn
    rw [h.routing_eq] at ht
    exact .step ih hr hn ht hid

theorem executes_iff {outcome : String → Option NodeResult} {root id : String} :
    w'.Executes outcome root id ↔ w.Executes outcome root id := ⟨h.executes, h.symm.executes⟩

theorem routes {outcome : String → Option NodeResult} {root : String} (hr : w.Routes outcome root) :
    w'.Routes outcome root := by
  intro id n r hreach hout hn
  rw [h.node?_eq] at hn
  rw [h.routing_eq]
  exact hr id n r (h.reaches_iff.mp hreach) hout hn

end Workflow.Reordered

namespace RunState

/-! ## What events keep -/

/-- Results that are there stay, and nothing is activated or found fatal. -/
structure Keeps (s s' : RunState) : Prop where
  results : ∀ id r, s.context.results.get? id = some r → s'.context.results.get? id = some r
  activated : s'.readiness.activated = s.readiness.activated
  fatal : s'.fatal = s.fatal

theorem Served.keeps {s s' : RunState} {id : String} (h : Served s id s') : s.Keeps s' := by
  cases h with
  | waits store hphase => exact ⟨fun _ _ h => h, rfl, rfl⟩
  | ends hf => exact ⟨fun _ _ h => record_get? h, rfl, rfl⟩

section
variable {p : Plan} {scope : List String} {s : RunState} (hc : p.Covers scope)
include hc

theorem Sound.keeps (h : Sound (p.Balance scope) p s) {event : Event} (he : ∀ id, event ≠ .handle id) :
    s.Keeps (s.step p event) := by
  have hstep := h.stepped hc.maintains event
  generalize s.step p event = s' at hstep ⊢
  cases hstep with
  | queues hrun => exact ⟨fun _ _ h => h, by simp only [Readiness.start_eq], rfl⟩
  | begins hline hrun hw hattempted =>
    have hk := hattempted.served.keeps
    exact ⟨hk.results, hk.activated, hk.fatal⟩
  | wakes hphase hw hserved => exact hserved.keeps
  | settles hget hsettled => exact absurd rfl (he _)
  | _ => exact ⟨fun _ _ h => h, rfl, rfl⟩

theorem Sound.step_results (h : Sound (p.Balance scope) p s) (event : Event) {id : String} {r : NodeResult}
    (hr : s.context.results.get? id = some r) : (s.step p event).context.results.get? id = some r := by
  have hstep := h.stepped hc.maintains event
  generalize s.step p event = s' at hstep ⊢
  cases hstep with
  | begins hline hrun hw hattempted => exact hattempted.served.keeps.results id r hr
  | wakes hphase hw hserved => exact hserved.keeps.results id r hr
  | settles hget hsettled => rwa [hsettled.context]
  | _ => exact hr

theorem Sound.run_results : ∀ {events : List Event} {s : RunState}, Sound (p.Balance scope) p s → ∀ {id : String} {r : NodeResult},
    s.context.results.get? id = some r → (s.run p events).context.results.get? id = some r
  | [], _, _, _, _, hr => hr
  | event :: _, _, h, _, _, hr => run_results (h.step hc.maintains event) (h.step_results hc event hr)

/-! ## Activation -/

/-- The root and nodes that execute are activated, no others, and no routing has failed. -/
structure Within (w : Workflow) (outcome : String → Option NodeResult) (root : String) (s : RunState) : Prop where
  rooted : root ∈ s.readiness.activated
  executes : ∀ id ∈ s.readiness.activated, w.Executes outcome root id
  fatal : s.fatal = none

omit hc in
theorem Keeps.within {w : Workflow} {outcome : String → Option NodeResult} {root : String} {s' : RunState}
    (hk : s.Keeps s') (h : Within w outcome root s) : Within w outcome root s' :=
  ⟨hk.activated ▸ h.rooted, hk.activated ▸ h.executes, hk.fatal.trans h.fatal⟩

variable {outcome : String → Option NodeResult} {root : String}

omit hc in
theorem Sound.handle_within (h : Sound (p.Balance scope) p s) (id : String) (hscope : ∀ id ∈ scope, p.workflow.graph.Reaches root id)
    (hroutes : p.workflow.Routes outcome root) (hagree : s.context.results.Agree outcome)
    (hw : Within p.workflow outcome root s) : Within p.workflow outcome root (s.handle p id) := by
  rcases handle_cases p s id with ⟨-, he⟩ | ⟨f, hget, hsettled⟩
  · rwa [he]
  · have hid : s.readiness.state.get? id = some .started :=
      h.started id (List.mem_append_right _ (Entries.mem_keys_of_get? hget))
    have hexec := hw.executes id (h.balanced.chosen id .started hid (by simp) (by simp))
    have hreach := hscope id (Readiness.mem_scope_of_state h.balanced hid)
    obtain ⟨r, hr, hfits⟩ := h.outcome id f (Entries.mem_of_get? hget)
    have hout := hagree id r hr
    generalize s.handle p id = s' at hsettled
    cases hsettled with
    | failed e =>
      have hact := Readiness.settle_activated p.workflow.successors s.readiness id .failed
      exact ⟨hact ▸ hw.rooted, hact ▸ hw.executes, hw.fatal⟩
    | @routed r' n ts hn hroute =>
      obtain ⟨rfl, hok⟩ := hfits
      rw [if_pos hok] at hout
      have hact := Readiness.settle_activated p.workflow.successors (s.readiness.activate ts) id .succeeded
      refine ⟨?_, ?_, hw.fatal⟩
      · show root ∈ (Readiness.settle _ _ _ _).activated
        rw [hact]
        exact List.mem_append_left _ hw.rooted
      · intro m hm
        have hm : m ∈ (Readiness.settle p.workflow.successors (s.readiness.activate ts) id .succeeded).activated := hm
        rw [hact] at hm
        rcases List.mem_append.mp hm with hm | hm
        · exact hw.executes m hm
        · exact .step hexec hout hn hroute hm
    | @misrouted r' n e hn hroute =>
      obtain ⟨rfl, hok⟩ := hfits
      rw [if_pos hok] at hout
      obtain ⟨ts, hts⟩ := hroutes id n r' hreach hout hn
      rw [hroute] at hts
      cases hts
    | unknown hn =>
      have hact := Readiness.settle_activated p.workflow.successors s.readiness id .succeeded
      exact ⟨hact ▸ hw.rooted, hact ▸ hw.executes, hw.fatal⟩

theorem Sound.run_within (hscope : ∀ id ∈ scope, p.workflow.graph.Reaches root id)
    (hroutes : p.workflow.Routes outcome root) : ∀ (events : List Event) {s : RunState}, Sound (p.Balance scope) p s →
    (s.run p events).context.results.Agree outcome → Within p.workflow outcome root s →
    Within p.workflow outcome root (s.run p events)
  | [], _, _, _, hw => hw
  | event :: events, s, h, hagree, hw => by
    have hbefore : s.context.results.Agree outcome := fun id r hr =>
      hagree id r (run_results hc h hr)
    refine run_within hscope hroutes events (h.step hc.maintains event) hagree ?_
    by_cases he : ∃ m, event = .handle m
    · obtain ⟨m, rfl⟩ := he
      exact h.handle_within m hscope hroutes hbefore hw
    · exact (h.keeps hc (not_exists.mp he)).within hw

end

end RunState

namespace Engine.Ended

variable {e : Engine} {flow : CompiledWorkflow} {root : String} {p : Plan} {s : RunState}
  {outcome : String → Option NodeResult}

theorem within (h : e.Ended flow root p s) (hagree : s.context.results.Agree outcome)
    (hroutes : flow.workflow.Routes outcome root) : RunState.Within flow.workflow outcome root s := by
  have hc := h.covers
  have hflow := h.workflow_eq
  obtain ⟨s₀, events, hp, rfl⟩ := h.prepared
  have hstart := hp.sound h.rooted
  obtain ⟨store, given, c, c', nodes, host, -, -, -, rfl⟩ := hp.start
  rw [← hflow] at hroutes ⊢
  refine hstart.run_within hc ?_ hroutes events hagree
    ⟨List.mem_singleton_self root, ?_, rfl⟩
  · intro id hid
    rw [hflow]
    exact (Graph.mem_reachableFrom_iff.mp hid).2
  · intro id hid
    rw [List.mem_singleton.mp hid]
    exact .root

theorem executed_of_activated (h : e.Ended flow root p s) (hrun : s.isCancelled = false) {id : String}
    (hid : id ∈ flow.graph.reachableFrom root) (hact : id ∈ s.readiness.activated) : id ∈ s.context.results.order := by
  have hopen := h.not_open hrun id
  rw [← Bool.not_eq_true, Readiness.isOpen_iff, not_or] at hopen
  obtain ⟨t, ht⟩ := Readiness.exists_state h.sound.balanced hid
  rw [h.recorded_iff]
  cases t with
  | pending => exact absurd ht hopen.1
  | started => exact absurd ht hopen.2
  | succeeded => exact .inl ht
  | failed => exact .inr ht
  | skipped => exact absurd hact (h.sound.balanced.unchosen id ((h.sound.balanced.skipped_iff id).mpr ht))

section
variable (h : e.Ended flow root p s) (hagree : s.context.results.Agree outcome)
  (hroutes : flow.workflow.Routes outcome root) (htime : s.timedOut = false)
include h hagree hroutes htime

theorem not_cancelled : s.isCancelled = false := by
  simp [RunState.isCancelled, (h.within hagree hroutes).fatal, htime]

theorem order_iff (id : String) : id ∈ s.context.results.order ↔ flow.workflow.Executes outcome root id := by
  have hwithin := h.within hagree hroutes
  have hrun := h.not_cancelled hagree hroutes htime
  have hmem := root_mem_scope h.checked h.rooted
  constructor
  · intro hid
    apply hwithin.executes id
    rcases (h.recorded_iff id).mp hid with hs | hs
    · exact h.sound.balanced.chosen id _ hs (by simp) (by simp)
    · exact h.sound.balanced.chosen id _ hs (by simp) (by simp)
  · intro hid
    -- The scope is carried along: a node that executes is settled only because the root reaches it.
    have hboth : id ∈ flow.graph.reachableFrom root ∧ id ∈ s.context.results.order := by
      induction hid with
      | root => exact ⟨hmem, h.executed_of_activated hrun hmem hwithin.rooted⟩
      | @step m id n r ts _ hr hn ht hid ih =>
        obtain ⟨hscope, horder⟩ := ih
        have hsucc : id ∈ flow.workflow.successors m := RunState.route_subset ht hid
        have hid' : id ∈ flow.graph.reachableFrom root :=
          (links_of_checked h.checked root).closed m hscope hsucc
        refine ⟨hid', h.executed_of_activated hrun hid' ?_⟩
        rcases (h.recorded_iff m).mp horder with hs | hs
        · obtain ⟨r', hr', hok, hfollowed⟩ := h.sound.succeeded m hs
          have hout := hagree m r' hr'
          rw [if_pos hok, hr] at hout
          cases hout
          rw [RunState.Followed, h.workflow_eq] at hfollowed
          exact hfollowed n ts hn ht hid
        · obtain ⟨r', hr', hok⟩ := h.sound.failed m hs
          have hout := hagree m r' hr'
          rw [if_neg (by simp [hok]), hr] at hout
          cases hout
    exact hboth.2

theorem skipped_iff (id : String) : id ∈ s.readiness.skipped ↔
    flow.graph.Reaches root id ∧ ¬flow.workflow.Executes outcome root id := by
  have hrun := h.not_cancelled hagree hroutes htime
  have hopen := h.not_open hrun id
  rw [← Bool.not_eq_true, Readiness.isOpen_iff, not_or] at hopen
  rw [← h.order_iff hagree hroutes htime, h.recorded_iff, h.sound.balanced.skipped_iff]
  constructor
  · intro hs
    refine ⟨(Graph.mem_reachableFrom_iff.mp (Readiness.mem_scope_of_state h.sound.balanced hs)).2, ?_⟩
    rw [hs]
    simp
  · rintro ⟨hreach, hnot⟩
    have hid : id ∈ flow.graph.reachableFrom root :=
      Graph.mem_reachableFrom_iff.mpr ⟨(Graph.mem_reachableFrom_iff.mp (root_mem_scope h.checked h.rooted)).1, hreach⟩
    obtain ⟨t, ht⟩ := Readiness.exists_state h.sound.balanced hid
    cases t with
    | pending => exact absurd ht hopen.1
    | started => exact absurd ht hopen.2
    | succeeded => exact absurd (.inl ht) hnot
    | failed => exact absurd (.inr ht) hnot
    | skipped => exact ht

/-- The executed nodes are those that execute and the skipped ones the rest of what the
root reaches; so any other run with these outcomes executes and skips the same, also if
the sections of the document change places. -/
theorem executed_iff :
    (∀ id, id ∈ (respond p s).results.order ↔ flow.workflow.Executes outcome root id) ∧
    (∀ id, id ∈ (respond p s).skipped ↔ flow.graph.Reaches root id ∧ ¬flow.workflow.Executes outcome root id) ∧
    (∀ (cal cal' : Calendar) (text text' : String) (e' : Engine) (flow' : CompiledWorkflow) (p' : Plan) (s' : RunState),
      CompiledWorkflow.ofDocument cal text = .ok flow → CompiledWorkflow.ofDocument cal' text' = .ok flow' →
      Workflow.Rearranged text text' → e'.Ended flow' root p' s' →
      s'.context.results.Agree outcome → s'.timedOut = false →
      (∀ id, id ∈ (respond p' s').results.order ↔ id ∈ (respond p s).results.order) ∧
      (∀ id, id ∈ (respond p' s').skipped ↔ id ∈ (respond p s).skipped)) := by
  refine ⟨h.order_iff hagree hroutes htime, h.skipped_iff hagree hroutes htime, ?_⟩
  intro cal cal' text text' e' flow' p' s' htext htext' harranged h' hagree' htime'
  have hsame := harranged.reordered (CompiledWorkflow.ofDocument_parse htext) (CompiledWorkflow.ofDocument_parse htext')
  have hroutes' := hsame.routes hroutes
  refine ⟨?_, ?_⟩
  · intro id
    exact (h'.order_iff hagree' hroutes' htime' id).trans
      (hsame.executes_iff.trans (h.order_iff hagree hroutes htime id).symm)
  · intro id
    refine (h'.skipped_iff hagree' hroutes' htime' id).trans ?_
    refine Iff.trans ?_ (h.skipped_iff hagree hroutes htime id).symm
    exact and_congr hsame.reaches_iff (not_congr hsame.executes_iff)

end

end Engine.Ended

theorem Decision.routes (outcome : String → Option NodeResult) : Decision.workflow.Routes outcome "ask" := by
  intro id n r _ _ _
  unfold Workflow.routing
  cases hr : Entries.get? Decision.workflow.edges id with
  | none => exact ⟨_, rfl⟩
  | some x =>
    have hmem := Entries.mem_of_get? hr
    simp only [Decision.workflow, List.mem_cons, Prod.mk.injEq, List.not_mem_nil, or_false] at hmem
    rcases hmem with ⟨-, rfl⟩ | ⟨-, rfl⟩ | ⟨-, rfl⟩
    · exact ⟨_, rfl⟩
    · exact ⟨_, rfl⟩
    · exact ⟨_, rfl⟩

theorem executed_iff_decision : ∃ p s outcome, Decision.engine.Ended Decision.flow "ask" p s ∧
    s.context.results.Agree outcome ∧ Decision.workflow.Routes outcome "ask" ∧ s.timedOut = false ∧
    (∀ id, id ∈ (Engine.respond p s).results.order ↔ Decision.workflow.Executes outcome "ask" id) ∧
    (∀ id, id ∈ (Engine.respond p s).skipped ↔
      Decision.flow.graph.Reaches "ask" id ∧ ¬Decision.workflow.Executes outcome "ask" id) := by
  obtain ⟨p, s, h, hrun⟩ := Decision.ended
  let outcome : String → Option NodeResult := fun id => (s.context.results.get? id).filter (·.status.isOk)
  have hagree : s.context.results.Agree outcome := fun id r hr => by
    simp only [outcome, hr, Option.filter_some]
  have htime : s.timedOut = false := by
    simp only [RunState.isCancelled, Bool.or_eq_false_iff] at hrun
    exact hrun.2
  have hall := h.executed_iff hagree (Decision.routes outcome) htime
  exact ⟨p, s, outcome, h, hagree, Decision.routes outcome, htime, hall.1, hall.2.1⟩

end FlowEngine
