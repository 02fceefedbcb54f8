import Mathlib
import FlowEngine.Proofs.Run.Prepared
import FlowEngine.Proofs.Workflow.Valid
import FlowEngine.Run.Builtin

/-!
# What a success says

A node that lies on or behind a cycle which avoids the root never gets ready
(`Workflow.Stuck`); every other node that the root reaches settles unless the run
is cancelled. Being stuck is no failure, so a successful run leaves just these
nodes cancelled, and each other one has a good result or was skipped
(`success_iff`). From a root of the graph nothing is stuck, but a run may start
from any node.
-/

namespace FlowEngine

/-! ## Cycles that avoid the root -/

/-- If in a finite set each element comes after another, each is behind a cycle of the set. -/
theorem exists_cycle_behind {α : Type} {r : α → α → Prop} {ids : Set α} (hfinite : ids.Finite)
    (h : ∀ b ∈ ids, ∃ a ∈ ids, r a b) {b : α} (hb : b ∈ ids) :
    ∃ c ∈ ids, Relation.TransGen r c c ∧ Relation.ReflTransGen r c b := by
  by_contra hnone
  push Not at hnone
  let behind : Set α := { a ∈ ids | Relation.ReflTransGen r a b }
  have : Finite behind := (hfinite.subset (Set.sep_subset _ _)).to_subtype
  let before : behind → behind → Prop := fun x y => Relation.TransGen r x y
  have : IsTrans behind before := ⟨fun _ _ _ h1 h2 => Relation.TransGen.trans h1 h2⟩
  have : Std.Irrefl before := ⟨fun x hx => hnone x x.2.1 hx x.2.2⟩
  have hwf := Finite.wellFounded_of_trans_of_irrefl before
  obtain ⟨m, -, hmin⟩ := hwf.has_min Set.univ ⟨⟨b, hb, .refl⟩, trivial⟩
  obtain ⟨a, ha, ham⟩ := h m m.2.1
  exact hmin ⟨a, ha, .head ham m.2.2⟩ trivial (.single ham)

namespace Workflow

def Onward (w : Workflow) (root a b : String) : Prop := w.Follows a b ∧ b ≠ root

/-- The node is on or behind a cycle that the root leads to but is not on. -/
def Stuck (w : Workflow) (root id : String) : Prop :=
  ∃ c, w.graph.Reaches root c ∧ Relation.TransGen (w.Onward root) c c ∧ Relation.ReflTransGen (w.Onward root) c id

variable {w : Workflow} (hw : w.Checked) {root id : String}
include hw

theorem reaches_onward {a b : String} (ha : w.graph.Reaches root a) (hab : Relation.ReflTransGen (w.Onward root) a b) :
    w.graph.Reaches root b := by
  have hedge : ∀ a b, w.Onward root a b → b ∈ w.graph.successors a := fun a b h =>
    (mem_graph_successors hw.sources).mpr h.1
  exact ha.trans (Relation.ReflTransGen.mono hedge _ _ hab)

theorem stuck_iff (hroot : root ∈ w.nodeIds) : w.Stuck root id ↔
    ∃ ids, Readiness.Knotted (w.graph.reachableFrom root) w.successors root ids ∧ id ∈ ids := by
  constructor
  · rintro ⟨c, hc, hcycle, hid⟩
    refine ⟨fun m => Relation.ReflTransGen (w.Onward root) c m, ?_, hid⟩
    intro m hm
    have hm : Relation.ReflTransGen (w.Onward root) c m := hm
    obtain ⟨p, hcp, hpm⟩ := Relation.TransGen.tail'_iff.mp (hcycle.trans_left hm)
    exact ⟨Graph.mem_reachableFrom_iff.mpr ⟨hroot, reaches_onward hw hc hm⟩, hpm.2, p, hcp, hpm.1⟩
  · rintro ⟨ids, hk, hid⟩
    have hfinite : ids.Finite :=
      (w.graph.reachableFrom root).finite_toSet.subset fun m hm => (hk m hm).1
    have hbefore : ∀ b ∈ ids, ∃ a ∈ ids, w.Onward root a b := by
      intro b hb
      obtain ⟨-, hne, p, hp, hsucc⟩ := hk b hb
      exact ⟨p, hp, hsucc, hne⟩
    obtain ⟨c, hc, hcycle, hcid⟩ := exists_cycle_behind hfinite hbefore hid
    exact ⟨c, (Graph.mem_reachableFrom_iff.mp (hk c hc).1).2, hcycle, hcid⟩

end Workflow

/-! ## Failures are reported -/

namespace RunState

def Blamed (s : RunState) : Prop := ∀ id, s.readiness.state.get? id = some .failed → s.failure.isSome = true

theorem Served.blamed {s s' : RunState} {id : String} (h : Served s id s') (hb : s.Blamed) : s'.Blamed := by
  unfold Blamed
  rw [h.readiness, h.failure]
  exact hb

theorem Settled.blamed {p : Plan} {s s' : RunState} {id : String} {f : Finished} (h : Settled p s id f s')
    (hb : s.Blamed) : s'.Blamed := by
  have hsucceeded {r : Readiness} (hr : r.state = s.readiness.state) {m : String}
      (hm : (r.settle p.workflow.successors id .succeeded).state.get? m = some .failed) : s.failure.isSome = true := by
    have hturned := (Readiness.settle_cascaded p.workflow.successors r id .succeeded).turned (.inl rfl)
    have hne : id ≠ m := by
      rintro rfl
      rw [hturned.own] at hm
      cases hm
    apply hb m
    rw [← hr]
    exact (hturned.other m hne _ (by simp) (by simp)).mp hm
  cases h with
  | failed e => exact fun _ _ => by simp
  | routed hn hr => exact fun m hm => hsucceeded (r := s.readiness.activate _) rfl hm
  | misrouted hn hr => exact fun m hm => hsucceeded rfl hm
  | unknown hn => exact fun m hm => hsucceeded rfl hm

section
variable {inv : Readiness → Prop} {p : Plan} {scope : List String} {s : RunState} (hc : p.Maintains scope inv)
include hc

theorem Sound.step_blamed (h : Sound inv p s) (hb : s.Blamed) (event : Event) : (s.step p event).Blamed := by
  have hstep := h.stepped hc event
  generalize s.step p event = s' at hstep ⊢
  cases hstep with
  | queues hrun =>
    intro id hid
    have hid : s.readiness.start.2.state.get? id = some .failed := hid
    rw [Readiness.start_state] at hid
    split at hid
    · cases hid
    · exact hb id hid
  | begins hline hrun hw hattempted => exact hattempted.served.blamed hb
  | wakes hphase hw hserved => exact hserved.blamed hb
  | settles hget hsettled => exact hsettled.blamed hb
  | _ => exact hb

theorem Sound.run_blamed : ∀ (events : List Event) {s : RunState}, Sound inv p s → s.Blamed → (s.run p events).Blamed
  | [], _, _, hb => hb
  | event :: events, _, h, hb => run_blamed events (h.step hc event) (h.step_blamed hc hb event)

end

theorem error?_eq_none {p : Plan} {s : RunState} :
    s.error? p = none ↔ s.fatal = none ∧ s.timedOut = false ∧ s.failure = none := by
  simp [error?, Option.or_eq_none_iff]

end RunState

/-! ## Successful runs -/

/-- The node has a result that is no error, or was skipped. -/
def Response.Accounts (r : Response) (id : String) : Prop :=
  (∃ n, r.results.get? id = some n ∧ n.status.isOk = true) ∨ id ∈ r.skipped

namespace Engine.Prepared

variable {e : Engine} {flow : CompiledWorkflow} {root : String} {p : Plan} {s : RunState}

theorem blamed (h : e.Prepared flow root p s) : s.Blamed := by
  obtain ⟨store, given, c, c', nodes, host, -, -, -, rfl⟩ := h.start
  intro id hid
  have hstate : (Engine.start flow (flow.graph.reachableFrom root) root c' store).readiness.state.get? id
      = if id ∈ flow.graph.reachableFrom root then some .pending else none :=
    Entries.get?_map (fun _ => NodeState.pending)
  rw [hstate] at hid
  split at hid <;> cases hid

section
variable (h : e.Prepared flow root p s) {events : List RunState.Event}
include h

theorem run_sound_from : (s.run p events).Sound (p.BalanceFrom (flow.graph.reachableFrom root) root) p :=
  h.sound_from.run (h.covers.maintainsFrom root) events

variable (hdone : (s.run p events).isDone = true) (hrun : (s.run p events).isCancelled = false)
include hdone hrun

theorem pending_iff_stuck (id : String) :
    (s.run p events).readiness.state.get? id = some .pending ↔ flow.workflow.Stuck root id := by
  have hbalanced : p.BalanceFrom _ root (s.run p events).readiness := h.run_sound_from.balanced
  have hready := (RunState.isDone_iff.mp hdone).2.2.2.resolve_left (by simp [hrun])
  rw [Plan.BalanceFrom, h.workflow_eq] at hbalanced
  rw [Workflow.stuck_iff h.checked h.known]
  exact hbalanced.pending_iff (links_of_checked h.checked root) hready (h.run_sound_from.not_started hdone hrun)

theorem cancelled_iff_stuck (id : String) : id ∈ (s.run p events).cancelled p ↔ flow.workflow.Stuck root id := by
  have hstarted := h.run_sound_from.not_started hdone hrun id
  rw [h.run_sound_from.mem_cancelled_iff (h.covers.maintainsFrom root) h.scope_known, Readiness.isOpen_iff,
    or_iff_left hstarted, h.pending_iff_stuck hdone hrun]

theorem accounts_iff (hfailure : (s.run p events).failure = none) {id : String}
    (hid : id ∈ flow.graph.reachableFrom root) :
    (respond p (s.run p events)).Accounts id ↔ (s.run p events).readiness.state.get? id ≠ some .pending := by
  have hsound : (s.run p events).Sound (p.BalanceFrom _ root) p := h.run_sound_from
  have hblamed := h.sound_from.run_blamed (h.covers.maintainsFrom root) events h.blamed
  have hstarted := hsound.not_started hdone hrun id
  have hfinished := (RunState.isDone_iff.mp hdone).2.2.1
  constructor
  · rintro (⟨n, hn, -⟩ | hskipped) hpending
    · have hrecorded : id ∈ (s.run p events).context.results.order := by
        by_contra hnot
        have hnone : (respond p (s.run p events)).results.get? id = none := Entries.get?_eq_none.mpr hnot
        rw [hnone] at hn
        cases hn
      rcases (hsound.recorded_iff id).mp hrecorded with hs | hs | hs
      · rw [hpending] at hs; cases hs
      · rw [hpending] at hs; cases hs
      · rw [hfinished] at hs; cases hs
    · have hs : (s.run p events).readiness.state.get? id = some .skipped :=
        (hsound.balanced.balanced.skipped_iff id).mp hskipped
      rw [hpending] at hs
      cases hs
  · intro hpending
    obtain ⟨t, ht⟩ : ∃ t, (s.run p events).readiness.state.get? id = some t :=
      Readiness.exists_state hsound.balanced.balanced hid
    cases t with
    | pending => exact absurd ht hpending
    | started => exact absurd ht hstarted
    | succeeded =>
      obtain ⟨n, hn, hok, -⟩ := hsound.succeeded id ht
      exact .inl ⟨n, hn, hok⟩
    | failed =>
      have hblame := hblamed id ht
      rw [hfailure] at hblame
      cases hblame
    | skipped => exact .inr ((hsound.balanced.balanced.skipped_iff id).mpr ht)

end

/-- A successful run from any node, after whatever events: the nodes that it leaves cancelled
are those that are stuck, and the others that its root reaches have a good result or were
skipped. -/
theorem success_iff (h : e.Prepared flow root p s) {events : List RunState.Event}
    (hdone : (s.run p events).isDone = true) (hsuccess : (respond p (s.run p events)).isSuccess = true) :
    (∀ id, id ∈ (respond p (s.run p events)).cancelled ↔ flow.workflow.Stuck root id) ∧
    (∀ id, flow.graph.Reaches root id →
      ((respond p (s.run p events)).Accounts id ↔ ¬flow.workflow.Stuck root id)) := by
  obtain ⟨hfatal, htime, hfailure⟩ := RunState.error?_eq_none.mp (Option.isNone_iff_eq_none.mp hsuccess)
  have hrun : (s.run p events).isCancelled = false := by simp [RunState.isCancelled, hfatal, htime]
  refine ⟨h.cancelled_iff_stuck hdone hrun, fun id hreach => ?_⟩
  have hscope : id ∈ flow.graph.reachableFrom root := Graph.mem_reachableFrom_iff.mpr ⟨h.known, hreach⟩
  rw [h.accounts_iff hdone hrun hfailure hscope, ne_eq, h.pending_iff_stuck hdone hrun]

end Engine.Prepared

/-! ## A start before a cycle -/

namespace Upstream

/-- No root leads to the last three nodes, so that two of them form a cycle is not looked at. -/
def text : String :=
  "[workflow]\nstart_node = A\n[node.A]\ntype = set\n[node.X]\ntype = set\n[node.Y]\ntype = set\n"
    ++ "[node.Z]\ntype = set\n[edges]\nX = Y\nY = Z\nZ = Y\n"

def workflow : Workflow :=
  { Workflow.empty "" "A" with
    nodes := [⟨"A", "set", "A", [], none⟩, ⟨"X", "set", "X", [], none⟩, ⟨"Y", "set", "Y", [], none⟩,
      ⟨"Z", "set", "Z", [], none⟩]
    edges := [("X", .fanOut ["Y"]), ("Y", .fanOut ["Z"]), ("Z", .fanOut ["Y"])] }

set_option maxRecDepth 20000 in
theorem parse_text : Workflow.parse text = .ok workflow := by
  have hparse : (Workflow.parse text).toOption = some workflow := by decide
  exact eq_ok_of_toOption hparse

set_option maxRecDepth 20000 in
theorem validate_workflow : workflow.validate .standard = .ok () := by
  have hvalid : (workflow.validate .standard).toOption = some () := by decide
  exact eq_ok_of_toOption hvalid

def flow : CompiledWorkflow := ⟨workflow, _, validate_workflow⟩

theorem ofDocument_text : CompiledWorkflow.ofDocument .standard text = .ok flow := by
  rw [CompiledWorkflow.ofDocument, parse_text, ok_bind]
  exact Workflow.compile_eq_ok.mpr ⟨validate_workflow, rfl⟩

def engine : Engine := ⟨Builtin.registry, .standalone, []⟩

def context : Context := ⟨"", [], .null, [], .empty⟩

def events : List RunState.Event := [.queue, .grant "X", .wake "X", .handle "X", .queue]

set_option maxRecDepth 20000 in
theorem ended : ∃ p s, engine.Prepared flow "X" p s ∧ (s.run p events).isDone = true ∧
    (Engine.respond p (s.run p events)).isSuccess = true ∧
    (Engine.respond p (s.run p events)).results.order = ["X"] ∧ (Engine.respond p (s.run p events)).skipped = [] ∧
    (Engine.respond p (s.run p events)).cancelled = ["Y", "Z"] := by
  let check (run : Plan × RunState) : Bool :=
    let final := run.2.run run.1 events
    let response := Engine.respond run.1 final
    final.isDone && response.isSuccess && decide (response.results.order = ["X"]) && decide (response.skipped = []) &&
      decide (response.cancelled = ["Y", "Z"])
  have hlaunch : (engine.launch? flow "X" context).any check = true := by decide
  obtain ⟨p, s, h, hcheck⟩ := Engine.Launched.exists_of_launch? (by decide) rfl hlaunch
  simp only [check, Bool.and_eq_true, decide_eq_true_eq, and_assoc] at hcheck
  exact ⟨p, s, ⟨⟨_, text, ofDocument_text⟩, h.known, h.start⟩, hcheck⟩

end Upstream

theorem Engine.Prepared.success_iff_upstream : ∃ p s events, Upstream.engine.Prepared Upstream.flow "X" p s ∧
    (s.run p events).isDone = true ∧ (respond p (s.run p events)).isSuccess = true ∧
    (∀ id, id ∈ (respond p (s.run p events)).cancelled ↔ Upstream.workflow.Stuck "X" id) ∧
    (∀ id, Upstream.flow.graph.Reaches "X" id →
      ((respond p (s.run p events)).Accounts id ↔ ¬Upstream.workflow.Stuck "X" id)) := by
  obtain ⟨p, s, h, hdone, hsuccess, -⟩ := Upstream.ended
  obtain ⟨hcancelled, haccounts⟩ := h.success_iff hdone hsuccess
  exact ⟨p, s, Upstream.events, h, hdone, hsuccess, hcancelled, haccounts⟩

/-- A success may leave nodes that never ran. -/
theorem Upstream.not_accounts : ¬∀ (e : Engine) (flow : CompiledWorkflow) (root : String) (p : Plan) (s : RunState)
    (events : List RunState.Event), e.Prepared flow root p s → (s.run p events).isDone = true →
    (Engine.respond p (s.run p events)).isSuccess = true →
    ∀ id, flow.graph.Reaches root id → (Engine.respond p (s.run p events)).Accounts id := by
  intro hall
  obtain ⟨p, s, h, hdone, hsuccess, horder, hskipped, -⟩ := ended
  have hreach : flow.graph.Reaches "X" "Y" := .single (by decide +kernel)
  rcases hall engine flow "X" p s events h hdone hsuccess "Y" hreach with ⟨n, hn, -⟩ | hmem
  · have hnot : (Engine.respond p (s.run p events)).results.get? "Y" = none :=
      Entries.get?_eq_none.mpr (by
        show "Y" ∉ (Engine.respond p (s.run p events)).results.order
        rw [horder]
        decide)
    rw [hnot] at hn
    cases hn
  · rw [hskipped] at hmem
    cases hmem

end FlowEngine
