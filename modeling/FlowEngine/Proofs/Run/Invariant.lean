import Mathlib
import FlowEngine.Proofs.Entries
import FlowEngine.Proofs.Run.Bounded
import FlowEngine.Proofs.Run.Rooted
import FlowEngine.Run.State
import FlowEngine.Workflow.Validation

/-!
# The invariant of runs

Each node that was started is under way in one place: in the line, with a slot or
among the finished. Serving a node, whatever its attempts come to, keeps it in a
slot or finishes it with a result that fits (`Served`), so each event keeps the
invariant (`Sound.step`), and with it any row of events does (`Sound.run`). What else
is proved of each event goes by what it comes to (`Stepped`). What is known of readiness
is left open: any property will do that starting and settling nodes keep
(`Plan.Maintains`).
-/

namespace FlowEngine

open Readiness (Links Cascaded)

/-- A plan that covers a scope: its links agree, and it has each node. -/
structure Plan.Covers (p : Plan) (scope : List String) : Prop where
  links : Links scope p.workflow.successors p.workflow.graph.predecessors
  nodes : ∀ id ∈ scope, (p.node? id).isSome = true

abbrev Plan.Balance (p : Plan) (scope : List String) : Readiness → Prop :=
  Readiness.Balanced scope p.workflow.graph.predecessors [] []

abbrev Plan.BalanceFrom (p : Plan) (scope : List String) (root : String) : Readiness → Prop :=
  Readiness.Rooted scope p.workflow.successors p.workflow.graph.predecessors root

/-- What a property of readiness has to be like to hold all through a run. -/
structure Plan.Maintains (p : Plan) (scope : List String) (inv : Readiness → Prop) : Prop where
  nodes : ∀ id ∈ scope, (p.node? id).isSome = true
  states : ∀ r, inv r → ∀ id t, r.state.get? id = some t → id ∈ scope
  ready : ∀ r, inv r → ∀ id ∈ r.ready, r.state.get? id = some .pending
  readyNodup : ∀ r, inv r → r.ready.Nodup
  start : ∀ r, inv r → inv r.start.2
  settle : ∀ r, inv r → ∀ id, r.state.get? id = some .started → ∀ ids ⊆ p.workflow.successors id,
    ∀ t, t = .succeeded ∨ t = .failed → inv ((r.activate ids).settle p.workflow.successors id t)

theorem Plan.Covers.maintains {p : Plan} {scope : List String} (h : p.Covers scope) :
    p.Maintains scope (p.Balance scope) where
  nodes := h.nodes
  states := fun _ hb _ _ ht => Readiness.mem_scope_of_state hb ht
  ready := fun _ hb id hid => ((hb.ready_iff id).mp hid).1
  readyNodup := fun _ hb => hb.readyNodup
  start := fun _ hb => hb.start
  settle := fun _ hb _ hid _ hids _ ht => (hb.activate_successors h.links hid hids).settle h.links hid ht

theorem Plan.Covers.maintainsFrom {p : Plan} {scope : List String} (h : p.Covers scope) (root : String) :
    p.Maintains scope (p.BalanceFrom scope root) where
  nodes := h.nodes
  states := fun _ hr _ _ ht => hr.states ht
  ready := fun _ hr id hid => ((hr.balanced.ready_iff id).mp hid).1
  readyNodup := fun _ hr => hr.balanced.readyNodup
  start := fun _ hr => hr.start h.links
  settle := fun _ hr _ hid _ hids _ ht => hr.settle h.links hid hids ht

abbrev Plan.Guard (p : Plan) (scope : List String) (root : String) : Readiness → Prop :=
  Readiness.Guarded scope p.workflow.successors p.workflow.graph.predecessors root

theorem Plan.maintains_guard {p : Plan} {scope : List String} {root : String} (honce : scope.Nodup) (hroot : root ∈ scope)
    (hnodes : ∀ id ∈ scope, (p.node? id).isSome = true)
    (hsub : ∀ id ∈ scope, ∀ n ∈ p.workflow.successors id, id ∈ p.workflow.graph.predecessors n) :
    p.Maintains scope (p.Guard scope root) where
  nodes := hnodes
  states := fun _ hr _ _ ht => hr.stateKeys ▸ Entries.mem_keys_of_get? ht
  ready := fun _ hr => hr.readyPending hroot
  readyNodup := fun _ hr => hr.readyNodup
  start := fun _ hr => hr.start honce hroot hsub
  settle := fun _ hr _ hid ids _ _ ht => hr.settle honce hid ht ids

def Finished.Fits (r : NodeResult) : Finished → Prop
  | .succeeded r' => r' = r ∧ r.status.isOk = true
  | .failed _ => r.status.isOk = false

def Phase.Retryable : Phase → Prop
  | .attempting .. => True
  | .backingOff _ r _ => r.status.isOk = false
  | .broken => True

def Plan.retries (p : Plan) (id : String) : Nat := (p.node? id).elim 0 p.maxRetries

theorem status_failure (message : String) : (NodeResult.failure message).status.isOk = false := rfl

namespace RunState

/-- The nodes that are in the line, have a slot or finished, but have not settled. -/
def underWay (s : RunState) : List String := s.line ++ s.active.keys ++ s.finished.keys

def Followed (p : Plan) (s : RunState) (id : String) (r : NodeResult) : Prop :=
  ∀ n ts, p.workflow.node? id = some n → route n r (p.workflow.routing id) = .ok ts → ts ⊆ s.readiness.activated

/-- What holds of results and states, apart from where nodes are under way. -/
structure Recorded (inv : Readiness → Prop) (p : Plan) (s : RunState) : Prop where
  balanced : inv s.readiness
  recorded_iff : ∀ id, id ∈ s.context.results.order ↔
    s.readiness.state.get? id = some .succeeded ∨ s.readiness.state.get? id = some .failed ∨ id ∈ s.finished.keys
  orderOnce : s.context.results.order.Nodup
  outcome : ∀ id f, (id, f) ∈ s.finished → ∃ r, s.context.results.get? id = some r ∧ f.Fits r
  succeeded : ∀ id, s.readiness.state.get? id = some .succeeded →
    ∃ r, s.context.results.get? id = some r ∧ r.status.isOk = true ∧ Followed p s id r
  failed : ∀ id, s.readiness.state.get? id = some .failed →
    ∃ r, s.context.results.get? id = some r ∧ r.status.isOk = false
  retryable : ∀ id phase, (id, phase) ∈ s.active → phase.Retryable

theorem Recorded.congr {inv : Readiness → Prop} {p : Plan} {s s' : RunState} (h : Recorded inv p s)
    (hr : s'.readiness = s.readiness) (hc : s'.context = s.context) (ha : s'.active = s.active)
    (hf : s'.finished = s.finished) : Recorded inv p s' where
  balanced := by rw [hr]; exact h.balanced
  recorded_iff := by rw [hc, hr, hf]; exact h.recorded_iff
  orderOnce := by rw [hc]; exact h.orderOnce
  outcome := by rw [hc, hf]; exact h.outcome
  succeeded := by simp only [Followed, hc, hr]; exact h.succeeded
  failed := by rw [hc, hr]; exact h.failed
  retryable := by rw [ha]; exact h.retryable

/-- The invariant: besides, what is under way was started, each node once, and in a run
that is not cancelled nothing else was. -/
structure Sound (inv : Readiness → Prop) (p : Plan) (s : RunState) : Prop extends Recorded inv p s where
  once : s.underWay.Nodup
  started : ∀ id ∈ s.underWay, s.readiness.state.get? id = some .started
  tracked : s.isCancelled = false → ∀ id, s.readiness.state.get? id = some .started → id ∈ s.underWay

/-- The invariant with one started node taken out. -/
structure Without (inv : Readiness → Prop) (p : Plan) (id : String) (s : RunState) : Prop extends Recorded inv p s where
  once : (id :: (s.line ++ (s.active.erase id).keys ++ s.finished.keys)).Nodup
  started : ∀ m ∈ id :: (s.line ++ (s.active.erase id).keys ++ s.finished.keys),
    s.readiness.state.get? m = some .started
  tracked : s.isCancelled = false → ∀ m, s.readiness.state.get? m = some .started →
    m ∈ id :: (s.line ++ (s.active.erase id).keys ++ s.finished.keys)

/-! ## Serving a node -/

/-- What serving a node comes to: it has a slot with a phase, or it finished. -/
inductive Served (s : RunState) (id : String) : RunState → Prop
  | waits (store : Store) {phase : Phase} (h : phase.Retryable) :
      Served s id { s with store, active := s.active.insert id phase }
  | ends {r : NodeResult} {f : Finished} (h : f.Fits r) : Served s id (s.finish id r f)

section
variable {p : Plan} {s : RunState} {id : String}

theorem served_abort (e : FlowError) : Served s id (s.abort id e) := .ends (f := .failed e) (status_failure _)

theorem served_giveUp {k : Nat} {r : NodeResult} (h : r.status.isOk = false) : Served s id (s.giveUp id k r) :=
  .ends (f := .failed _) h

inductive Attempted (s : RunState) (id : String) (k : Nat) : RunState → Prop
  | waits (store : Store) (r : NodeResult) (due : Nat) :
      Attempted s id k { s with store, active := s.active.insert id (.attempting k r due) }
  | breaks : Attempted s id k (s.breakDown id)
  | aborts (e : FlowError) : Attempted s id k (s.abort id e)

theorem attempted_attemptNode (h : (p.node? id).isSome = true) (k : Nat) : Attempted s id k (s.attemptNode p id k) := by
  unfold attemptNode
  cases hn : p.node? id with
  | none => rw [hn] at h; cases h
  | some n =>
    have hid : n.id = id := by simpa using List.find?_some hn
    simp only
    split
    · exact .aborts _
    split
    · unfold attempt
      rw [hid]
      split
      · exact .aborts _
      · exact .waits _ _ _
    · exact .breaks

theorem Attempted.served {k : Nat} {s' : RunState} (h : Attempted s id k s') : Served s id s' := by
  cases h with
  | waits store r due => exact .waits store trivial
  | breaks => exact .waits s.store trivial
  | aborts e => exact served_abort e

theorem served_attemptNode (h : (p.node? id).isSome = true) (k : Nat) : Served s id (s.attemptNode p id k) :=
  (attempted_attemptNode h k).served

/-- What the end of the attempt `k` comes to: the node ends, or there is a retry left for it,
now or after a wait. -/
inductive Concluded (p : Plan) (s : RunState) (id : String) (k : Nat) (r : NodeResult) : RunState → Prop
  | ends {f : Finished} (h : f.Fits r) : Concluded p s id k r (s.finish id r f)
  | retries {s' : RunState} (hk : k ≤ p.retries id) (h : Attempted s id (k + 1) s') : Concluded p s id k r s'
  | backsOff (hk : k ≤ p.retries id) (hr : r.status.isOk = false) (due : Nat) :
      Concluded p s id k r { s with active := s.active.insert id (.backingOff k r due) }

theorem concluded_conclude (h : (p.node? id).isSome = true) (k : Nat) (r : NodeResult) :
    Concluded p s id k r (s.conclude p id k r) := by
  unfold conclude
  split
  · rename_i hr
    exact .ends ⟨rfl, hr⟩
  · rename_i hr
    have hr : r.status.isOk = false := by simpa using hr
    simp only
    split
    · rename_i hk
      split
      · exact .retries hk.1 (attempted_attemptNode h _)
      · exact .backsOff hk.1 hr _
    · exact .ends (f := .failed _) hr

theorem Concluded.served {k : Nat} {r : NodeResult} {s' : RunState} (h : Concluded p s id k r s') : Served s id s' := by
  cases h with
  | ends h => exact .ends h
  | retries hk h => exact h.served
  | backsOff hk hr due => exact .waits s.store hr

theorem served_wake (h : (p.node? id).isSome = true) {phase : Phase} (hp : s.active.get? id = some phase)
    (hr : phase.Retryable) : Served s id (s.wake p id) := by
  unfold wake
  rw [hp]
  cases phase with
  | attempting k r due => exact (concluded_conclude h k r).served
  | backingOff k r due =>
    simp only
    split
    · exact served_giveUp hr
    · exact served_attemptNode h _
  | broken => exact served_abort _

end

/-! ## Taking a node out and putting it back -/

section
variable {inv : Readiness → Prop} {p : Plan} {s : RunState} {id : String}

theorem perm_slot {ls as fs : List String} : (ls ++ (id :: as) ++ fs).Perm (id :: (ls ++ as ++ fs)) := by
  rw [List.append_assoc, List.append_assoc]
  exact List.perm_middle

theorem keys_perm_erase {α : Type} {m : Entries α} (hid : id ∈ m.keys) : m.keys.Perm (id :: (m.erase id).keys) := by
  rw [Entries.keys_erase]
  exact List.perm_cons_erase hid

theorem Sound.without_active (h : Sound inv p s) (hid : id ∈ s.active.keys) : Without inv p id s := by
  have hperm := (((keys_perm_erase hid).append_left s.line).append_right (s.finished.keys)).trans perm_slot
  exact { h.toRecorded with
    once := hperm.nodup_iff.mp h.once
    started := fun m hm => h.started m (hperm.mem_iff.mpr hm)
    tracked := fun hc m hm => hperm.mem_iff.mp (h.tracked hc m hm) }

theorem underWay_perm (hid : id ∈ s.finished.keys) :
    s.underWay.Perm (id :: (s.line ++ s.active.keys ++ (s.finished.erase id).keys)) :=
  ((keys_perm_erase hid).append_left _).trans List.perm_middle

theorem Sound.not_active (h : Sound inv p s) (hid : id ∈ s.line) : id ∉ s.active.keys := fun hm =>
  (List.nodup_append.mp (List.nodup_append.mp h.once).1).2.2 id hid id hm rfl

theorem Sound.nodup_active (h : Sound inv p s) : s.active.keys.Nodup :=
  (List.nodup_append.mp (List.nodup_append.mp h.once).1).2.1

theorem Sound.without_line (h : Sound inv p s) (hid : id ∈ s.line) :
    Without inv p id { s with line := s.line.erase id } := by
  have hkeys : (s.active.erase id).keys = s.active.keys := by
    rw [Entries.keys_erase, List.erase_of_not_mem (h.not_active hid)]
  have hperm : s.underWay.Perm (id :: (s.line.erase id ++ (s.active.erase id).keys ++ s.finished.keys)) := by
    rw [hkeys, underWay, List.append_assoc, List.append_assoc, ← List.cons_append]
    exact (List.perm_cons_erase hid).append_right _
  exact
    { h.toRecorded.congr rfl rfl rfl rfl with
      once := hperm.nodup_iff.mp h.once
      started := fun m hm => h.started m (hperm.mem_iff.mpr hm)
      tracked := fun hc m hm => hperm.mem_iff.mp (h.tracked hc m hm) }

theorem record_entries {c : Context} {r : NodeResult} (h : id ∉ c.results.order) :
    (c.record id r).results.entries = c.results.entries ++ [(id, r)] := by
  have hnone : Entries.get? c.results.entries id = none := Entries.get?_eq_none.mpr h
  simp [Context.record, Results.record, Results.contains, Entries.contains, hnone]

theorem record_spec {c : Context} {r : NodeResult} (h : id ∉ c.results.order) :
    (c.record id r).results.order = c.results.order ++ [id] ∧
      ∀ m, (c.record id r).results.get? m = if id = m then some r else c.results.get? m := by
  refine ⟨?_, ?_⟩
  · simp [Results.order, Entries.keys, record_entries h]
  · intro m
    rw [Results.get?, record_entries h, ← Entries.insert_of_not_mem r h, Entries.get?_insert]
    rfl

theorem record_get? {c : Context} {m : String} {r r' : NodeResult} (h : c.results.get? m = some r') :
    (c.record id r).results.get? m = some r' := by
  by_cases hid : id ∈ c.results.order
  · have hsome : (Entries.get? c.results.entries id).isSome = true := by
      rw [Option.isSome_iff_ne_none, ne_eq, Entries.get?_eq_none, not_not]
      exact hid
    simpa [Context.record, Results.record, Results.contains, Entries.contains, hsome] using h
  · obtain ⟨-, hget⟩ := record_spec (r := r) hid
    rw [hget, if_neg, h]
    rintro rfl
    exact absurd h (by simp [Results.get?, Entries.get?_eq_none.mpr hid])

theorem Without.waits (h : Without inv p id s) (store : Store) {phase : Phase} (hphase : phase.Retryable) :
    Sound inv p { s with store, active := s.active.insert id phase } := by
  have hperm : (s.line ++ (s.active.insert id phase).keys ++ s.finished.keys).Perm
      (id :: (s.line ++ (s.active.erase id).keys ++ s.finished.keys)) :=
    (((Entries.keys_insert_perm s.active id phase).append_left s.line).append_right _).trans perm_slot
  exact
    { balanced := h.balanced
      recorded_iff := h.recorded_iff
      orderOnce := h.orderOnce
      outcome := h.outcome
      succeeded := h.succeeded
      failed := h.failed
      retryable := fun m ph hm => by
        rcases Entries.mem_insert hm with he | hm
        · cases he; exact hphase
        · exact h.retryable m ph hm
      once := hperm.nodup_iff.mpr h.once
      started := fun m hm => h.started m (hperm.mem_iff.mp hm)
      tracked := fun hc m hm => hperm.mem_iff.mpr (h.tracked hc m hm) }

theorem Without.unrecorded (h : Without inv p id s) : id ∉ s.context.results.order := by
  have hid := h.started id (by simp)
  intro hm
  rcases (h.recorded_iff id).mp hm with hs | hs | hs
  · rw [hid] at hs; cases hs
  · rw [hid] at hs; cases hs
  · exact (List.nodup_cons.mp h.once).1 (List.mem_append_right _ hs)

theorem Without.order_served (h : Without inv p id s) {s' : RunState} (hs : Served s id s') :
    s'.context.results.order = s.context.results.order ∨
      s'.context.results.order = s.context.results.order ++ [id] := by
  cases hs with
  | waits store hphase => exact .inl rfl
  | ends hf => exact .inr (record_spec h.unrecorded).1

theorem Without.ends (h : Without inv p id s) {r : NodeResult} {f : Finished} (hf : f.Fits r) :
    Sound inv p (s.finish id r f) := by
  have hid := h.started id (by simp)
  have hfinished : id ∉ s.finished.keys := fun hm =>
    (List.nodup_cons.mp h.once).1 (List.mem_append_right _ hm)
  have hnew := h.unrecorded
  obtain ⟨horder, hget⟩ := record_spec (r := r) hnew
  have hkeys : Entries.keys (s.finished ++ [(id, f)]) = s.finished.keys ++ [id] := Entries.keys_append ..
  have hperm : (s.finish id r f).underWay.Perm
      (id :: (s.line ++ (s.active.erase id).keys ++ s.finished.keys)) := by
    show (s.line ++ (s.active.erase id).keys ++ Entries.keys (s.finished ++ [(id, f)])).Perm _
    rw [hkeys, ← List.append_assoc]
    exact List.perm_append_singleton _ _
  have hother (m : String) {t : NodeState} (ht : t ≠ .started) (hm : s.readiness.state.get? m = some t) : id ≠ m := by
    rintro rfl
    rw [hid] at hm
    cases hm
    exact ht rfl
  refine
    { balanced := h.balanced
      recorded_iff := ?_
      orderOnce := ?_
      outcome := ?_
      succeeded := ?_
      failed := ?_
      retryable := fun m ph hm => h.retryable m ph ((Entries.erase_sublist s.active id).subset hm)
      once := hperm.nodup_iff.mpr h.once
      started := fun m hm => h.started m (hperm.mem_iff.mp hm)
      tracked := fun hc m hm => hperm.mem_iff.mpr (h.tracked hc m hm) }
  · intro m
    show m ∈ (s.context.record id r).results.order ↔ _ ∨ _ ∨ m ∈ Entries.keys (s.finished ++ [(id, f)])
    rw [horder, hkeys, List.mem_append, List.mem_append, h.recorded_iff m]
    tauto
  · show (s.context.record id r).results.order.Nodup
    rw [horder]
    exact Readiness.nodup_append_singleton h.orderOnce hnew
  · intro m g hm
    show ∃ r', (s.context.record id r).results.get? m = some r' ∧ _
    rw [hget]
    rcases List.mem_append.mp hm with hm | hm
    · have hne : id ≠ m := fun he => hfinished (he ▸ List.mem_map.mpr ⟨_, hm, rfl⟩)
      rw [if_neg hne]
      exact h.outcome m g hm
    · cases List.mem_singleton.mp hm
      rw [if_pos rfl]
      exact ⟨r, rfl, hf⟩
  · intro m hm
    show ∃ r', (s.context.record id r).results.get? m = some r' ∧ _
    rw [hget, if_neg (hother m (by simp) hm)]
    exact h.succeeded m hm
  · intro m hm
    show ∃ r', (s.context.record id r).results.get? m = some r' ∧ _
    rw [hget, if_neg (hother m (by simp) hm)]
    exact h.failed m hm

theorem Without.served (h : Without inv p id s) {s' : RunState} (hs : Served s id s') : Sound inv p s' := by
  cases hs with
  | waits store hphase => exact h.waits store hphase
  | ends hf => exact h.ends hf

end

/-! ## Settling a node -/

/-- What the end of a node comes to, by the way in which it ended. -/
inductive Settled (p : Plan) (s : RunState) (id : String) : Finished → RunState → Prop
  | failed (e : FlowError) : Settled p s id (.failed e)
      { s with failure := s.failure.or (some e), readiness := s.readiness.settle p.workflow.successors id .failed }
  | routed {r : NodeResult} {n : Node} {ts : List String} (hn : p.workflow.node? id = some n)
      (hr : route n r (p.workflow.routing id) = .ok ts) : Settled p s id (.succeeded r)
      { s with readiness := (s.readiness.activate ts).settle p.workflow.successors id .succeeded }
  | misrouted {r : NodeResult} {n : Node} {e : FlowError} (hn : p.workflow.node? id = some n)
      (hr : route n r (p.workflow.routing id) = .error e) : Settled p s id (.succeeded r)
      { s with fatal := s.fatal.or (some e),
               readiness := s.readiness.settle p.workflow.successors id .succeeded }
  | unknown {r : NodeResult} (hn : p.workflow.node? id = none) : Settled p s id (.succeeded r)
      { s with readiness := s.readiness.settle p.workflow.successors id .succeeded }

theorem settled_settle (p : Plan) (s : RunState) (id : String) (f : Finished) : Settled p s id f (s.settle p id f) := by
  cases f with
  | failed e => exact .failed e
  | succeeded r =>
    unfold settle
    cases hn : p.workflow.node? id with
    | none => exact .unknown hn
    | some n =>
      cases hr : route n r (p.workflow.routing id) with
      | ok ts =>
        simp only [Option.map_some, hr]
        exact .routed hn hr
      | error e =>
        simp only [Option.map_some, hr]
        exact .misrouted hn hr

theorem handle_cases (p : Plan) (s : RunState) (id : String) : (s.finished.get? id = none ∧ s.handle p id = s) ∨
    ∃ f, s.finished.get? id = some f ∧ Settled p { s with finished := s.finished.erase id } id f (s.handle p id) := by
  unfold RunState.handle
  cases s.finished.get? id with
  | none => exact .inl ⟨rfl, rfl⟩
  | some f => exact .inr ⟨f, rfl, settled_settle p _ id f⟩

theorem route_subset {n : Node} {r : NodeResult} {x : Routing} {ts : List String} (h : route n r x = .ok ts) :
    ts ⊆ x.targets := by
  cases x with
  | fanOut us => cases h; exact List.Subset.refl _
  | branch us =>
    cases h
    intro t ht
    exact List.mem_of_getElem? (Option.mem_toList.mp ht)
  | select us =>
    simp only [route] at h
    split at h
    · cases h
    split at h
    · rename_i hc
      cases h
      exact List.cons_subset.mpr ⟨by simpa [Routing.targets] using hc, List.nil_subset _⟩
    · cases h
  | none => cases h; exact List.Subset.refl _

structure Settles (p : Plan) (id : String) (r : NodeResult) (t : NodeState) (ids : List String) : Prop where
  final : t = .succeeded ∨ t = .failed
  successors : ids ⊆ p.workflow.successors id
  succeeded : t = .succeeded → r.status.isOk = true ∧
    ∀ n ts, p.workflow.node? id = some n → route n r (p.workflow.routing id) = .ok ts → ts ⊆ ids
  failed : t = .failed → r.status.isOk = false

section
variable {inv : Readiness → Prop} {p : Plan} {scope : List String} {s : RunState} (hc : p.Maintains scope inv)
include hc

theorem Sound.settles (h : Sound inv p s) {id : String} (hf : id ∈ s.finished.keys) {r : NodeResult}
    (hr : s.context.results.get? id = some r) {t : NodeState} {ids : List String} (ht : Settles p id r t ids)
    (fatal failure : Option FlowError) (hfatal : s.fatal.isSome = true → fatal.isSome = true) :
    Sound inv p { s with finished := s.finished.erase id, fatal, failure,
                           readiness := (s.readiness.activate ids).settle p.workflow.successors id t } := by
  have hperm := underWay_perm hf
  have hid : s.readiness.state.get? id = some .started := h.started id (hperm.mem_iff.mpr (by simp))
  have honce := List.nodup_cons.mp (hperm.nodup_iff.mp h.once)
  have hbalanced := hc.settle _ h.balanced id hid ids ht.successors t ht.final
  have hcascaded := Readiness.settle_cascaded p.workflow.successors (s.readiness.activate ids) id t
  generalize (s.readiness.activate ids).settle p.workflow.successors id t = r' at hbalanced hcascaded
  have hturned : s.readiness.Turned r' id t :=
    let h := hcascaded.turned ht.final
    ⟨h.own, h.other, h.started⟩
  have hactivated : r'.activated = s.readiness.activated ++ ids := hcascaded.activated
  refine
    { balanced := hbalanced
      recorded_iff := ?_
      orderOnce := h.orderOnce
      outcome := fun m g hm => h.outcome m g ((Entries.erase_sublist s.finished id).subset hm)
      succeeded := ?_
      failed := ?_
      retryable := h.retryable
      once := honce.2
      started := ?_
      tracked := ?_ }
  · intro m
    rw [h.recorded_iff m, (keys_perm_erase hf).mem_iff, List.mem_cons]
    by_cases hm : id = m
    · subst hm
      show _ ↔ r'.state.get? id = _ ∨ r'.state.get? id = _ ∨ _
      rw [hturned.own]
      rcases ht.final with rfl | rfl
      · simp
      · simp
    · show _ ↔ r'.state.get? m = _ ∨ r'.state.get? m = _ ∨ _
      rw [hturned.other m hm _ (by simp) (by simp), hturned.other m hm _ (by simp) (by simp)]
      simp [Ne.symm hm]
  · intro m hm
    by_cases he : id = m
    · subst he
      rw [hturned.own] at hm
      obtain ⟨hok, hroute⟩ := ht.succeeded (Option.some.inj hm)
      refine ⟨r, hr, hok, ?_⟩
      intro n ts hn hts
      show ts ⊆ r'.activated
      rw [hactivated]
      exact List.subset_append_of_subset_right _ (hroute n ts hn hts)
    · obtain ⟨r0, h0, hok, hfollowed⟩ := h.succeeded m ((hturned.other m he _ (by simp) (by simp)).mp hm)
      refine ⟨r0, h0, hok, ?_⟩
      intro n ts hn hts
      show ts ⊆ r'.activated
      rw [hactivated]
      exact List.subset_append_of_subset_left _ (hfollowed n ts hn hts)
  · intro m hm
    by_cases he : id = m
    · subst he
      rw [hturned.own] at hm
      exact ⟨r, hr, ht.failed (Option.some.inj hm)⟩
    · exact h.failed m ((hturned.other m he _ (by simp) (by simp)).mp hm)
  · intro m hm
    refine (hturned.started m).mpr ⟨?_, h.started m (hperm.mem_iff.mpr (List.mem_cons_of_mem _ hm))⟩
    rintro rfl
    exact honce.1 hm
  · intro hcancel m hm
    obtain ⟨hne, hm⟩ := (hturned.started m).mp hm
    have hcancel : s.isCancelled = false := by
      simp only [isCancelled, Bool.or_eq_false_iff] at hcancel ⊢
      refine ⟨?_, hcancel.2⟩
      cases hsome : s.fatal.isSome with
      | false => rfl
      | true =>
        rw [hfatal hsome] at hcancel
        exact hcancel.1
    exact (List.mem_cons.mp (hperm.mem_iff.mp (h.tracked hcancel m hm))).resolve_left (Ne.symm hne)

theorem Sound.handle (h : Sound inv p s) (id : String) : Sound inv p (s.handle p id) := by
  rcases handle_cases p s id with ⟨-, he⟩ | ⟨f, hget, hsettled⟩
  · rw [he]
    exact h
  · have hf := Entries.mem_keys_of_get? hget
    obtain ⟨r, hr, hfits⟩ := h.outcome id f (Entries.mem_of_get? hget)
    generalize s.handle p id = s' at hsettled
    cases hsettled with
    | failed e =>
      have ht : Settles p id r .failed [] := ⟨.inr rfl, List.nil_subset _, by simp, fun _ => hfits⟩
      have := h.settles hc hf hr ht s.fatal (s.failure.or (some e)) (fun h => h)
      rwa [Readiness.activate_nil] at this
    | @routed r' n ts hn hroute =>
      obtain ⟨rfl, hok⟩ := hfits
      refine h.settles hc hf hr ⟨.inl rfl, route_subset hroute, fun _ => ⟨hok, fun n' ts' hn' hr' => ?_⟩, by simp⟩
        s.fatal s.failure (fun h => h)
      rw [hn] at hn'
      cases hn'
      rw [hroute] at hr'
      cases hr'
      exact List.Subset.refl _
    | @misrouted r' n e hn hroute =>
      obtain ⟨rfl, hok⟩ := hfits
      have ht : Settles p id r' .succeeded [] := by
        refine ⟨.inl rfl, List.nil_subset _, fun _ => ⟨hok, ?_⟩, by simp⟩
        intro n' ts' hn' hr'
        rw [hn] at hn'
        cases hn'
        rw [hroute] at hr'
        cases hr'
      have := h.settles hc hf hr ht (s.fatal.or (some e)) s.failure (by simp)
      rwa [Readiness.activate_nil] at this
    | @unknown r' hn =>
      obtain ⟨rfl, hok⟩ := hfits
      have ht : Settles p id r' .succeeded [] :=
        ⟨.inl rfl, List.nil_subset _, fun _ => ⟨hok, fun n' ts' hn' hr' => by rw [hn] at hn'; cases hn'⟩, by simp⟩
      have := h.settles hc hf hr ht s.fatal s.failure (fun h => h)
      rwa [Readiness.activate_nil] at this

end

/-! ## Every event -/

/-- The event finds nothing to do. -/
def Idle (s : RunState) : Event → Prop
  | .queue => s.isCancelled = true
  | .grant id => id ∉ s.line
  | .wake id => s.active.get? id = none
  | .handle id => s.finished.get? id = none
  | _ => False

inductive Stepped (inv : Readiness → Prop) (p : Plan) (s : RunState) : Event → RunState → Prop
  | rests {event : Event} (h : s.Idle event) : Stepped inv p s event s
  | queues (hrun : s.isCancelled = false) : Stepped inv p s .queue
      { s with readiness := s.readiness.start.2, line := s.line ++ s.readiness.start.1 }
  | turnsAway {id : String} (hcancel : s.isCancelled = true) :
      Stepped inv p s (.grant id) { s with line := s.line.erase id }
  | begins {id : String} {s' : RunState} (hline : id ∈ s.line) (hrun : s.isCancelled = false)
      (hw : Without inv p id { s with line := s.line.erase id })
      (h : Attempted { s with line := s.line.erase id } id 1 s') : Stepped inv p s (.grant id) s'
  | wakes {id : String} {phase : Phase} {s' : RunState} (hphase : s.active.get? id = some phase)
      (hw : Without inv p id s) (h : Served s id s') : Stepped inv p s (.wake id) s'
  | settles {id : String} {f : Finished} {s' : RunState} (hget : s.finished.get? id = some f)
      (h : Settled p { s with finished := s.finished.erase id } id f s') : Stepped inv p s (.handle id) s'
  | expires : Stepped inv p s .expire { s with timedOut := true }
  | passes (ms : Nat) : Stepped inv p s (.pass ms) { s with clock := s.clock + ms }

section
variable {inv : Readiness → Prop} {p : Plan} {scope : List String} {s : RunState} (hc : p.Maintains scope inv)
include hc

theorem Sound.queue (h : Sound inv p s) : Sound inv p s.queue := by
  unfold RunState.queue
  split
  · exact h
  · simp only [show s.readiness.start.1 = s.readiness.ready from rfl]
    have hstate := s.readiness.start_state
    have hbalanced := hc.start _ h.balanced
    have hactivated : s.readiness.start.2.activated = s.readiness.activated := by rw [Readiness.start_eq]
    have hready := hc.ready _ h.balanced
    have hother (m : String) {u : NodeState} (h1 : u ≠ .pending) (h2 : u ≠ .started) :
        s.readiness.start.2.state.get? m = some u ↔ s.readiness.state.get? m = some u := by
      rw [hstate]
      split
      · rename_i hm
        rw [hready m hm]
        simp [h1.symm, h2.symm]
      · exact Iff.rfl
    have hperm : (s.line ++ s.readiness.ready ++ s.active.keys ++ s.finished.keys).Perm
        (s.readiness.ready ++ s.underWay) := by
      simp only [underWay, List.append_assoc]
      exact List.perm_append_comm_assoc _ _ _
    have hapart : ∀ m ∈ s.readiness.ready, m ∉ s.underWay := by
      intro m hm hu
      have := hready m hm
      rw [h.started m hu] at this
      cases this
    have honce : (s.readiness.ready ++ s.underWay).Nodup :=
      List.nodup_append.mpr ⟨hc.readyNodup _ h.balanced, h.once, fun a ha b hb he => hapart a ha (he ▸ hb)⟩
    refine
      { balanced := hbalanced
        recorded_iff := ?_
        orderOnce := h.orderOnce
        outcome := h.outcome
        succeeded := ?_
        failed := fun m hm => h.failed m ((hother m (by simp) (by simp)).mp hm)
        retryable := h.retryable
        once := hperm.nodup_iff.mpr honce
        started := ?_
        tracked := fun hcancel m hm => hperm.mem_iff.mpr ?_ }
    · intro m
      show _ ↔ s.readiness.start.2.state.get? m = _ ∨ s.readiness.start.2.state.get? m = _ ∨ _
      rw [hother m (by simp) (by simp), hother m (by simp) (by simp)]
      exact h.recorded_iff m
    · intro m hm
      obtain ⟨r, hr, hok, hfollowed⟩ := h.succeeded m ((hother m (by simp) (by simp)).mp hm)
      refine ⟨r, hr, hok, ?_⟩
      intro n ts hn hts
      show ts ⊆ s.readiness.start.2.activated
      rw [hactivated]
      exact hfollowed n ts hn hts
    · intro m hm
      show s.readiness.start.2.state.get? m = _
      rw [hstate]
      split
      · rfl
      · rename_i hm'
        exact h.started m ((List.mem_append.mp (hperm.mem_iff.mp hm)).resolve_left hm')
    · have hm : s.readiness.start.2.state.get? m = some .started := hm
      rw [hstate] at hm
      split at hm
      · rename_i hr
        exact List.mem_append_left _ hr
      · exact List.mem_append_right _ (h.tracked hcancel m hm)

theorem Sound.grant_cases (h : Sound inv p s) (id : String) : (id ∉ s.line ∧ s.grant p id = s) ∨
    id ∈ s.line ∧ Without inv p id { s with line := s.line.erase id } ∧ id ∈ scope ∧
      (s.isCancelled = true ∧ s.grant p id = { s with line := s.line.erase id } ∨
        s.isCancelled = false ∧ Attempted { s with line := s.line.erase id } id 1 (s.grant p id)) := by
  unfold RunState.grant
  by_cases hid : id ∈ s.line
  · have hw := h.without_line hid
    have hscope := hc.states _ hw.balanced id _ (hw.started id (by simp))
    rw [if_pos (by simpa using hid)]
    refine .inr ⟨hid, hw, hscope, ?_⟩
    simp only
    split
    · exact .inl ⟨‹_›, rfl⟩
    · exact .inr ⟨(Bool.not_eq_true _).mp ‹_›, attempted_attemptNode (hc.nodes id hscope) 1⟩
  · rw [if_neg (by simpa using hid)]
    exact .inl ⟨hid, rfl⟩

theorem Sound.wake_cases (h : Sound inv p s) (id : String) : (s.active.get? id = none ∧ s.wake p id = s) ∨
    ∃ phase, s.active.get? id = some phase ∧ Without inv p id s ∧ id ∈ scope ∧ Served s id (s.wake p id) := by
  cases ha : s.active.get? id with
  | none =>
    refine .inl ⟨rfl, ?_⟩
    unfold RunState.wake
    rw [ha]
  | some phase =>
    have hw := h.without_active (Entries.mem_keys_of_get? ha)
    have hscope := hc.states _ hw.balanced id _ (hw.started id (by simp))
    exact .inr ⟨phase, rfl, hw, hscope, served_wake (hc.nodes id hscope) ha (h.retryable id phase (Entries.mem_of_get? ha))⟩

theorem Sound.stepped (h : Sound inv p s) (event : Event) : Stepped inv p s event (s.step p event) := by
  cases event with
  | queue =>
    by_cases hcancel : s.isCancelled = true
    · rw [RunState.step, RunState.queue, if_pos hcancel]
      exact .rests hcancel
    · rw [RunState.step, RunState.queue, if_neg hcancel]
      exact .queues ((Bool.not_eq_true _).mp hcancel)
  | grant id =>
    rw [RunState.step]
    rcases h.grant_cases hc id with ⟨hnot, he⟩ | ⟨hline, hw, -, ⟨hcancel, he⟩ | ⟨hrun, hattempted⟩⟩
    · rw [he]
      exact .rests hnot
    · rw [he]
      exact .turnsAway hcancel
    · exact .begins hline hrun hw hattempted
  | wake id =>
    rw [RunState.step]
    rcases h.wake_cases hc id with ⟨hnone, he⟩ | ⟨phase, hphase, hw, -, hserved⟩
    · rw [he]
      exact .rests hnone
    · exact .wakes hphase hw hserved
  | handle id =>
    rw [RunState.step]
    rcases handle_cases p s id with ⟨hnone, he⟩ | ⟨f, hget, hsettled⟩
    · rw [he]
      exact .rests hnone
    · exact .settles hget hsettled
  | expire => exact .expires
  | pass ms => exact .passes ms

theorem Sound.grant (h : Sound inv p s) (id : String) : Sound inv p (s.grant p id) := by
  rcases h.grant_cases hc id with ⟨-, he⟩ | ⟨-, hw, -, ⟨hcancel, he⟩ | ⟨-, hattempted⟩⟩
  · rw [he]
    exact h
  · have hsub : (s.line.erase id ++ s.active.keys ++ s.finished.keys).Sublist s.underWay :=
      (List.erase_sublist.append_right _).append_right _
    rw [he]
    exact
      { h.toRecorded.congr rfl rfl rfl rfl with
        once := h.once.sublist hsub
        started := fun m hm => h.started m (hsub.subset hm)
        tracked := fun hrun => absurd (hcancel.symm.trans hrun) (by simp) }
  · exact hw.served hattempted.served

theorem Sound.wake (h : Sound inv p s) (id : String) : Sound inv p (s.wake p id) := by
  rcases h.wake_cases hc id with ⟨-, he⟩ | ⟨phase, -, hw, -, hserved⟩
  · rw [he]
    exact h
  · exact hw.served hserved

theorem Sound.step (h : Sound inv p s) (event : Event) : Sound inv p (s.step p event) := by
  cases event with
  | queue => exact h.queue hc
  | grant id => exact h.grant hc id
  | wake id => exact h.wake hc id
  | handle id => exact h.handle hc id
  | expire =>
    exact
      { h.toRecorded.congr rfl rfl rfl rfl with
        once := h.once
        started := h.started
        tracked := fun hrun => by simp [RunState.step, RunState.expire, isCancelled] at hrun }
  | pass ms =>
    exact
      { h.toRecorded.congr rfl rfl rfl rfl with
        once := h.once
        started := h.started
        tracked := h.tracked }

omit hc in
theorem run_append (s : RunState) (xs ys : List Event) : s.run p (xs ++ ys) = (s.run p xs).run p ys := List.foldl_append

theorem Sound.run (h : Sound inv p s) : ∀ events : List Event, Sound inv p (s.run p events) := by
  intro events
  induction events generalizing s with
  | nil => exact h
  | cons event events ih => exact ih (h.step hc event)

/-! ## At the end -/

omit hc in
theorem isDone_iff : s.isDone = true ↔ s.line = [] ∧ s.active = [] ∧ s.finished = [] ∧
    (s.isCancelled = true ∨ s.readiness.ready = []) := by
  simp only [isDone, Bool.and_eq_true, Bool.or_eq_true, List.isEmpty_iff, and_assoc]

omit hc in
theorem Sound.not_started (h : Sound inv p s) (hdone : s.isDone = true) (hrun : s.isCancelled = false) (id : String) :
    s.readiness.state.get? id ≠ some .started := by
  intro hid
  obtain ⟨hline, hactive, hfinished, -⟩ := isDone_iff.mp hdone
  have hunder := h.tracked hrun id hid
  rw [underWay, hline, hactive, hfinished] at hunder
  cases hunder

theorem Sound.mem_cancelled_iff (h : Sound inv p s) (hknown : scope ⊆ p.workflow.nodeIds) (id : String) :
    id ∈ s.cancelled p ↔ s.readiness.isOpen id = true := by
  rw [cancelled, List.mem_filter]
  refine ⟨And.right, fun hopen => ⟨hknown ?_, hopen⟩⟩
  rcases Readiness.isOpen_iff.mp hopen with hs | hs
  · exact hc.states _ h.balanced id _ hs
  · exact hc.states _ h.balanced id _ hs

end

end RunState

end FlowEngine
