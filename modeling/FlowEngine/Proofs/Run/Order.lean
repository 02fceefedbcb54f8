import Mathlib
import FlowEngine.Proofs.Run.Accounting

/-!
# Dependency order

A node that is handed out or begins waits for nothing any more, so its
predecessors in the run have settled (`settled_before`). It was pending and never
is again, so it is handed out once and begins once (`nodup_log`). A result is
recorded of a node that has not settled, and so before those of its successors
(`Sound.step_listed`).
-/

namespace FlowEngine

theorem Readiness.Balanced.settled_before {scope : List String} {predecessors : String → List String} {r : Readiness}
    (h : Balanced scope predecessors [] [] r) {n : String} (hn : r.waiting.get? n = some 0) (hscope : n ∈ scope)
    {m : String} (hm : m ∈ predecessors n) (hmscope : m ∈ scope) :
    ∃ t, r.state.get? m = some t ∧ t.isTerminal = true := by
  obtain ⟨t, ht⟩ := exists_state h hmscope
  refine ⟨t, ht, ?_⟩
  have hcount := h.count n hscope
  rw [hn, List.count_nil, Nat.add_zero] at hcount
  have hopen := List.countP_eq_zero.mp (Option.some.inj hcount).symm m (List.mem_filter.mpr ⟨hm, by simpa using hmscope⟩)
  simpa [isOwed, isOpen, ht] using hopen

namespace RunState

/-- The nodes that an event hands out. -/
def starts (s : RunState) : Event → List String
  | .queue => if s.isCancelled then [] else s.readiness.ready
  | _ => []

/-- The node that gets a slot for its first attempt. -/
def begins (s : RunState) : Event → List String
  | .grant id => if s.line.contains id && !s.isCancelled then [id] else []
  | _ => []

/-- What happens to nodes over a row of events. -/
def log {α : Type} (f : RunState → Event → List α) (p : Plan) (s : RunState) : List Event → List α
  | [] => []
  | event :: events => f s event ++ log f p (s.step p event) events

/-- Each result stands behind those of the predecessors that have one. -/
def Listed (p : Plan) (s : RunState) : Prop :=
  ∀ front id back, s.context.results.order = front ++ id :: back →
    ∀ m ∈ p.workflow.graph.predecessors id, m ∈ s.context.results.order → m ∈ front

section
variable {inv : Readiness → Prop} {p : Plan} {scope : List String} {s : RunState} (hc : p.Maintains scope inv)
include hc

/-! ## Once -/

/-- What takes a condition that it uses up, and that never comes about again, happens once. -/
theorem nodup_log {f : RunState → Event → List String} {w : RunState → String → Prop}
    (hback : ∀ s event id, Sound inv p s → w (s.step p event) id → w s id)
    (hused : ∀ s event id, Sound inv p s → id ∈ f s event → w s id ∧ ¬w (s.step p event) id)
    (hnodup : ∀ s event, Sound inv p s → (f s event).Nodup) :
    ∀ (events : List Event) {s : RunState}, Sound inv p s → (s.log f p events).Nodup
  | [], _, _ => List.nodup_nil
  | event :: events, s, h => by
    have hlog : ∀ (events : List Event) {s : RunState}, Sound inv p s → ∀ id ∈ s.log f p events, w s id := by
      intro events
      induction events with
      | nil => exact fun _ _ hid => by cases hid
      | cons event events ih =>
        intro s h id hid
        rcases List.mem_append.mp hid with hid | hid
        · exact (hused s event id h hid).1
        · exact hback s event id h (ih (h.step hc event) id hid)
    refine List.nodup_append.mpr ⟨hnodup s event h, nodup_log hback hused hnodup events (h.step hc event), ?_⟩
    rintro id hid _ hid' rfl
    exact (hused s event id h hid).2 (hlog events (h.step hc event) id hid')

theorem Sound.waiting_back (h : Sound inv p s) (event : Event) {id : String} :
    ((s.step p event).readiness.state.get? id = some .pending → s.readiness.state.get? id = some .pending) ∧
      (id ∈ (s.step p event).line → id ∈ s.line ∨ s.readiness.state.get? id = some .pending) := by
  have hstep := h.stepped hc event
  generalize s.step p event = s' at hstep ⊢
  cases hstep with
  | queues hrun =>
    refine ⟨fun hp => ?_, fun hl => (List.mem_append.mp hl).imp_right (hc.ready _ h.balanced id)⟩
    have hp : s.readiness.start.2.state.get? id = some .pending := hp
    rw [Readiness.start_state] at hp
    split at hp
    · cases hp
    · exact hp
  | turnsAway hcancel => exact ⟨fun hp => hp, fun hl => .inl (List.mem_of_mem_erase hl)⟩
  | begins hline hrun hw hattempted =>
    rw [hattempted.served.readiness, hattempted.served.line]
    exact ⟨fun hp => hp, fun hl => .inl (List.mem_of_mem_erase hl)⟩
  | wakes hphase hw hserved =>
    rw [hserved.readiness, hserved.line]
    exact ⟨fun hp => hp, .inl⟩
  | settles hget hsettled =>
    refine ⟨fun hp => (hsettled.pending hp).2, fun hl => .inl ?_⟩
    rwa [hsettled.line] at hl
  | _ => exact ⟨fun hp => hp, .inl⟩

theorem Sound.starts_pending (h : Sound inv p s) {event : Event} {id : String} (hid : id ∈ s.starts event) :
    s.readiness.state.get? id = some .pending ∧ (s.step p event).readiness.state.get? id ≠ some .pending := by
  cases event with
  | queue =>
    simp only [starts] at hid
    split at hid
    · cases hid
    · rename_i hrun
      refine ⟨hc.ready _ h.balanced id hid, ?_⟩
      simp only [RunState.step, RunState.queue, if_neg hrun]
      rw [show s.readiness.start.2.state.get? id = _ from Readiness.start_state _ _, if_pos hid]
      simp
  | _ => cases hid

theorem Sound.nodup_starts (h : Sound inv p s) (events : List Event) : (s.log starts p events).Nodup := by
  refine nodup_log hc (w := fun s id => s.readiness.state.get? id = some .pending) ?_ ?_ ?_ events h
  · exact fun s event id h hw => (h.waiting_back hc event).1 hw
  · exact fun s event id h hid => h.starts_pending hc hid
  · intro s event h
    cases event with
    | queue =>
      simp only [starts]
      split
      · exact List.nodup_nil
      · exact hc.readyNodup _ h.balanced
    | _ => exact List.nodup_nil

theorem Sound.nodup_begins (h : Sound inv p s) (events : List Event) : (s.log begins p events).Nodup := by
  refine nodup_log hc (w := fun s id => id ∈ s.line ∨ s.readiness.state.get? id = some .pending) ?_ ?_ ?_ events h
  · intro s event id h hw
    rcases hw with hline | hpending
    · exact (h.waiting_back hc event).2 hline
    · exact .inr ((h.waiting_back hc event).1 hpending)
  · intro s event id h hid
    cases event with
    | grant n =>
      simp only [begins] at hid
      split at hid
      · rename_i hcond
        cases List.mem_singleton.mp hid
        simp only [Bool.and_eq_true, List.contains_iff_mem, Bool.not_eq_true'] at hcond
        refine ⟨.inl hcond.1, ?_⟩
        rcases h.grant_cases hc id with ⟨hnot, -⟩ | ⟨-, hw, -, ⟨hcancel, -⟩ | ⟨-, hattempted⟩⟩
        · exact absurd hcond.1 hnot
        · rw [hcond.2] at hcancel
          cases hcancel
        · have hstarted := hw.started id (by simp)
          have honce := (List.nodup_cons.mp hw.once).1
          rw [List.mem_append, List.mem_append, not_or, not_or] at honce
          rw [RunState.step, hattempted.served.readiness, hattempted.served.line, hstarted]
          simp [honce.1.1]
      · cases hid
    | _ => cases hid
  · intro s event h
    cases event with
    | grant n =>
      simp only [begins]
      split
      · exact List.nodup_singleton n
      · exact List.nodup_nil
    | _ => exact List.nodup_nil

/-! ## Recording -/

theorem Sound.step_order (h : Sound inv p s) (event : Event) :
    (s.step p event).context.results.order = s.context.results.order ∨
      ∃ id, s.readiness.state.get? id = some .started ∧
        (s.step p event).context.results.order = s.context.results.order ++ [id] := by
  have hstep := h.stepped hc event
  generalize s.step p event = s' at hstep ⊢
  cases hstep with
  | begins hline hrun hw hattempted =>
    exact (hw.order_served hattempted.served).imp_right fun ho => ⟨_, hw.started _ (by simp), ho⟩
  | wakes hphase hw hserved => exact (hw.order_served hserved).imp_right fun ho => ⟨_, hw.started _ (by simp), ho⟩
  | settles hget hsettled =>
    rw [hsettled.context]
    exact .inl rfl
  | _ => exact .inl rfl

end

section
variable {p : Plan} {scope : List String} {s : RunState} (hc : p.Covers scope)

theorem Sound.waits_for_nothing (h : Sound (p.Balance scope) p s) {id : String} (hid : id ∈ s.context.results.order) :
    id ∈ scope ∧ s.readiness.waiting.get? id = some 0 := by
  have hstate : ∃ t, t ≠ .pending ∧ s.readiness.state.get? id = some t := by
    rcases (h.recorded_iff id).mp hid with hs | hs | hs
    · exact ⟨_, by simp, hs⟩
    · exact ⟨_, by simp, hs⟩
    · exact ⟨_, by simp, h.started id (List.mem_append_right _ hs)⟩
  obtain ⟨t, hne, ht⟩ := hstate
  have hscope := Readiness.mem_scope_of_state h.balanced ht
  exact ⟨hscope, h.balanced.idle id hscope (by rw [ht]; simpa using hne)⟩

include hc

/-- A started node precedes no node with a result, so its own may come last. -/
theorem Sound.step_listed (h : Sound (p.Balance scope) p s) (hl : s.Listed p) (event : Event) :
    (s.step p event).Listed p := by
  have hstep := h.step hc.maintains event
  rcases h.step_order hc.maintains event with ho | ⟨id, hid, ho⟩
  · unfold Listed
    rw [ho]
    exact hl
  · have hscope := Readiness.mem_scope_of_state h.balanced hid
    have hfree : ∀ b, b ∈ scope → s.readiness.waiting.get? b = some 0 → id ∉ p.workflow.graph.predecessors b := by
      intro b hb hwait hm
      obtain ⟨t, ht, hterminal⟩ := h.balanced.settled_before hwait hb hm hscope
      rw [hid] at ht
      cases ht
      cases hterminal
    intro front b back hsplit m hm hmem
    rw [ho] at hsplit hmem
    rcases List.eq_nil_or_concat back with rfl | ⟨back, last, rfl⟩
    · obtain ⟨hfront, hb⟩ := List.append_inj' hsplit rfl
      cases hb
      have hself := hfree id hscope (h.balanced.idle id hscope (by rw [hid]; simp))
      rw [← hfront]
      refine (List.mem_append.mp hmem).resolve_right fun hmid => hself ?_
      rwa [List.mem_singleton.mp hmid] at hm
    · rw [List.concat_eq_append, ← List.cons_append, ← List.append_assoc] at hsplit
      obtain ⟨hsplit, hlast⟩ := List.append_inj' hsplit rfl
      have hb : b ∈ s.context.results.order := by rw [hsplit]; simp
      obtain ⟨hbscope, hwait⟩ := h.waits_for_nothing hb
      refine hl front b back hsplit m hm ((List.mem_append.mp hmem).resolve_right fun hmid => ?_)
      rw [List.mem_singleton.mp hmid] at hm
      exact hfree b hbscope hwait hm

theorem Sound.run_listed : ∀ (events : List Event) {s : RunState}, Sound (p.Balance scope) p s → s.Listed p →
    (s.run p events).Listed p
  | [], _, _, hl => hl
  | event :: events, _, h, hl => run_listed events (h.step hc.maintains event) (h.step_listed hc hl event)

omit hc in
theorem Sound.starts_settled (h : Sound (p.Balance scope) p s) {event : Event} {id : String}
    (hid : id ∈ s.starts event ++ s.begins event) {m : String} (hm : m ∈ p.workflow.graph.predecessors id)
    (hscope : m ∈ scope) : ∃ t, s.readiness.state.get? m = some t ∧ t.isTerminal = true := by
  have hwait : id ∈ scope ∧ s.readiness.waiting.get? id = some 0 := by
    rcases List.mem_append.mp hid with hid | hid
    · cases event with
      | queue =>
        simp only [starts] at hid
        split at hid
        · cases hid
        · obtain ⟨hpending, hzero⟩ := (h.balanced.ready_iff id).mp hid
          exact ⟨Readiness.mem_scope_of_state h.balanced hpending, hzero⟩
      | _ => cases hid
    · cases event with
      | grant n =>
        simp only [begins] at hid
        split at hid
        · rename_i hcond
          cases List.mem_singleton.mp hid
          simp only [Bool.and_eq_true, List.contains_iff_mem] at hcond
          have hstarted := h.started id (List.mem_append_left _ (List.mem_append_left _ hcond.1))
          have hin := Readiness.mem_scope_of_state h.balanced hstarted
          exact ⟨hin, h.balanced.idle id hin (by rw [hstarted]; simp)⟩
        · cases hid
      | _ => cases hid
  exact h.balanced.settled_before hwait.2 hwait.1 hm hscope

end

end RunState

/-- In a run from one of the roots, after whatever events: no node has been handed out or has
begun twice, a node is handed out and begins only when its predecessors in the run have
settled, and each result stands behind those of the node's predecessors. -/
theorem Engine.Prepared.dependency_order {e : Engine} {flow : CompiledWorkflow} {root : String} {p : Plan} {s : RunState}
    (h : e.Prepared flow root p s) (hroot : root ∈ flow.roots) (events : List RunState.Event) :
    ((s.log RunState.starts p events).Nodup ∧ (s.log RunState.begins p events).Nodup) ∧
    (∀ event, ∀ id ∈ (s.run p events).starts event ++ (s.run p events).begins event,
      ∀ m ∈ flow.graph.predecessors id, m ∈ flow.graph.reachableFrom root →
        ∃ t, (s.run p events).readiness.state.get? m = some t ∧ t.isTerminal = true) ∧
    (∀ front id back, (respond p (s.run p events)).results.order = front ++ id :: back →
      ∀ m ∈ flow.graph.predecessors id, m ∈ (respond p (s.run p events)).results.order → m ∈ front) := by
  have hc := h.covers
  have hsound := h.sound hroot
  have hgraph : flow.graph = p.workflow.graph := by rw [h.workflow_eq]; rfl
  refine ⟨⟨hsound.nodup_starts hc.maintains events, hsound.nodup_begins hc.maintains events⟩, ?_, ?_⟩
  · intro event id hid m hm hscope
    rw [hgraph] at hm
    exact (hsound.run hc.maintains events).starts_settled hid hm hscope
  · rw [hgraph]
    refine hsound.run_listed hc events ?_
    have hempty : s.context.results.order = [] := by
      obtain ⟨store, given, c, c', nodes, host, hempty, hprepare, -, rfl⟩ := h.start
      show c'.results.order = []
      rw [(prepare_spec hprepare).2, hempty]
      rfl
    intro front id back hsplit
    rw [hempty] at hsplit
    cases front <;> cases hsplit

theorem Engine.Prepared.dependency_order_decision : ∃ p s events, Decision.engine.Prepared Decision.flow "ask" p s ∧
    "ask" ∈ Decision.flow.roots ∧ (s.run p events).isDone = true ∧
    ((s.log RunState.starts p events).Nodup ∧ (s.log RunState.begins p events).Nodup) ∧
    (∀ front id back, (respond p (s.run p events)).results.order = front ++ id :: back →
      ∀ m ∈ Decision.flow.graph.predecessors id, m ∈ (respond p (s.run p events)).results.order → m ∈ front) := by
  obtain ⟨p, s, h, -⟩ := Decision.ended
  obtain ⟨s₀, events, hp, rfl⟩ := h.prepared
  obtain ⟨honce, -, hlisted⟩ := hp.dependency_order h.rooted events
  exact ⟨p, s₀, events, hp, h.rooted, h.done, honce, hlisted⟩

end FlowEngine
