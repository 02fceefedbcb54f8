import Mathlib
import FlowEngine.Proofs.Run.Order

/-!
# Cancellation is final

In a cancelled run an event ends a node that has a slot, turns away one of the
line, takes the end of a node into account, or does nothing to nodes (`Closing`).
So the run winds down (`WindsDown`): each node with a slot ends once, with the
result of its attempt under way or its last one, and no node begins. What began is
what has a result or a slot (`Sound.run_begun`), so at the end all else that the
root reaches was skipped or is cancelled (`cancellation_final`).
-/

namespace FlowEngine

/-- The result that a node with a slot ends with if nothing is retried. -/
def Phase.result (p : Plan) (id : String) : Phase → NodeResult
  | attempting _ r _ => r
  | backingOff _ r _ => r
  | broken => .failure (p.breakdown id).message

namespace RunState

/-! ## Events of a cancelled run -/

inductive Closing (p : Plan) (s : RunState) : RunState → Prop
  | stays : Closing p s s
  | expires : Closing p s { s with timedOut := true }
  | passes (ms : Nat) : Closing p s { s with clock := s.clock + ms }
  | turnsAway (id : String) : Closing p s { s with line := s.line.erase id }
  | ends {id : String} {phase : Phase} (h : s.active.get? id = some phase) (f : Finished) :
    Closing p s (s.finish id (phase.result p id) f)
  | settles {id : String} {f : Finished} {rest : Entries Finished} {s' : RunState}
    (h : Settled p { s with finished := rest } id f s') : Closing p s s'

section
variable {p : Plan} {s s' : RunState}

theorem grant_cancelled (h : s.isCancelled = true) (id : String) :
    s.grant p id = if s.line.contains id then { s with line := s.line.erase id } else s := by
  have hline : isCancelled { s with line := s.line.erase id } = true := h
  simp only [grant, hline, if_true]

theorem conclude_cancelled (h : s.isCancelled = true) (id : String) (k : Nat) (r : NodeResult) :
    s.conclude p id k r = if r.status.isOk then s.finish id r (.succeeded r) else s.giveUp id k r := by
  simp only [conclude, h, Bool.true_eq_false, and_false, if_false]

theorem wake_cancelled (h : s.isCancelled = true) {id : String} {phase : Phase} (hp : s.active.get? id = some phase) :
    ∃ f, s.wake p id = s.finish id (phase.result p id) f := by
  unfold wake
  rw [hp]
  cases phase with
  | attempting k r due =>
    simp only [conclude_cancelled h]
    split
    · exact ⟨_, rfl⟩
    · exact ⟨_, rfl⟩
  | backingOff k r due =>
    simp only [h, if_true]
    exact ⟨_, rfl⟩
  | broken => exact ⟨_, rfl⟩

theorem step_closing (h : s.isCancelled = true) (event : Event) : Closing p s (s.step p event) := by
  cases event with
  | queue =>
    rw [step, queue, if_pos h]
    exact .stays
  | grant id =>
    rw [step, grant_cancelled h]
    split
    · exact .turnsAway id
    · exact .stays
  | wake id =>
    rw [step]
    cases hp : s.active.get? id with
    | none =>
      rw [wake, hp]
      exact .stays
    | some phase =>
      obtain ⟨f, hf⟩ := wake_cancelled (p := p) h hp
      rw [hf]
      exact .ends hp f
  | handle id =>
    rw [step]
    rcases handle_cases p s id with ⟨-, he⟩ | ⟨f, -, hsettled⟩
    · rw [he]
      exact .stays
    · exact .settles hsettled
  | expire => exact .expires
  | pass ms => exact .passes ms

theorem Settled.isCancelled {id : String} {f : Finished} (h : Settled p s id f s') (hs : s.isCancelled = true) :
    s'.isCancelled = true := by
  cases h with
  | misrouted hn hr => simp [RunState.isCancelled]
  | _ => exact hs

theorem Closing.isCancelled (h : Closing p s s') (hs : s.isCancelled = true) : s'.isCancelled = true := by
  cases h with
  | expires => exact Bool.or_true _
  | settles hsettled => exact hsettled.isCancelled hs
  | _ => exact hs

theorem step_registry (h : s.isCancelled = true) (registry : Registry) (event : Event) :
    s.step { p with registry } event = s.step p event := by
  cases event with
  | grant id => rw [step, step, grant_cancelled h, grant_cancelled h]
  | wake id =>
    simp only [step, wake, conclude_cancelled h, h, if_true]
    rfl
  | _ => rfl

theorem run_registry (registry : Registry) : ∀ (events : List Event) {s : RunState}, s.isCancelled = true →
    s.run { p with registry } events = s.run p events
  | [], _, _ => rfl
  | event :: events, s, h => by
    have hstep := step_registry (p := p) h registry event
    have ih := run_registry registry events ((step_closing (p := p) h event).isCancelled h)
    rw [run, List.foldl_cons, hstep]
    exact ih

theorem log_begins_cancelled : ∀ (events : List Event) {s : RunState}, s.isCancelled = true → s.log begins p events = []
  | [], _, _ => rfl
  | event :: events, s, h => by
    have hnone : s.begins event = [] := by
      cases event with
      | grant id => simp [begins, h]
      | _ => rfl
    rw [log, hnone, log_begins_cancelled events ((step_closing h event).isCancelled h), List.append_nil]

end

/-! ## Winding down -/

/-- The nodes with a slot keep it as it is or end with their result, each once, and in no
other way is anything recorded or stored. -/
structure WindsDown (p : Plan) (s s' : RunState) : Prop where
  cancelled : s'.isCancelled = true
  store : s'.store = s.store
  results : ∀ id r, s.context.results.get? id = some r → s'.context.results.get? id = some r
  recorded : ∃ ids, s'.context.results.order = s.context.results.order ++ ids ∧
    (ids ++ s'.active.keys).Perm s.active.keys
  slots : ∀ id phase, s.active.get? id = some phase →
    s'.active.get? id = some phase ∨ s'.context.results.get? id = some (phase.result p id)

namespace WindsDown

variable {p : Plan} {s s' s'' : RunState}

theorem of_same (hcancel : s'.isCancelled = true) (hstore : s'.store = s.store) (hcontext : s'.context = s.context)
    (hactive : s'.active = s.active) : WindsDown p s s' where
  cancelled := hcancel
  store := hstore
  results := by rw [hcontext]; exact fun _ _ h => h
  recorded := ⟨[], by rw [hcontext, List.append_nil], by rw [hactive, List.nil_append]⟩
  slots := by rw [hactive]; exact fun _ _ h => .inl h

theorem trans (h : WindsDown p s s') (h' : WindsDown p s' s'') : WindsDown p s s'' where
  cancelled := h'.cancelled
  store := h'.store.trans h.store
  results := fun id r hr => h'.results id r (h.results id r hr)
  recorded := by
    obtain ⟨ids, horder, hperm⟩ := h.recorded
    obtain ⟨ids', horder', hperm'⟩ := h'.recorded
    refine ⟨ids ++ ids', by rw [horder', horder, List.append_assoc], ?_⟩
    rw [List.append_assoc]
    exact (hperm'.append_left ids).trans hperm
  slots := by
    intro id phase hp
    rcases h.slots id phase hp with hkept | hended
    · exact h'.slots id phase hkept
    · exact .inr (h'.results id (phase.result p id) hended)

end WindsDown

section
variable {inv : Readiness → Prop} {p : Plan} {scope : List String} {s s' : RunState} (hc : p.Maintains scope inv)

theorem Sound.ends_windsDown (h : Sound inv p s) (hcancel : s.isCancelled = true) {id : String} {phase : Phase}
    (hp : s.active.get? id = some phase) (f : Finished) : WindsDown p s (s.finish id (phase.result p id) f) := by
  have hkey : id ∈ s.active.keys := Entries.mem_keys_of_get? hp
  obtain ⟨horder, hget⟩ := record_spec (r := phase.result p id) (h.without_active hkey).unrecorded
  have hrecorded : ([id] ++ (s.active.erase id).keys).Perm s.active.keys := by
    rw [Entries.keys_erase, List.singleton_append]
    exact (List.perm_cons_erase hkey).symm
  refine ⟨hcancel, rfl, fun _ _ => record_get?, ⟨[id], horder, hrecorded⟩, ?_⟩
  intro m phase' hm
  by_cases hid : id = m
  · subst hid
    rw [hp] at hm
    cases hm
    exact .inr ((hget id).trans (if_pos rfl))
  · exact .inl ((Entries.get?_erase_of_ne s.active hid).trans hm)

theorem Sound.closing_windsDown (h : Sound inv p s) (hcancel : s.isCancelled = true) (hs : Closing p s s') :
    WindsDown p s s' := by
  have hcancel' := hs.isCancelled hcancel
  cases hs with
  | ends hp f => exact h.ends_windsDown hcancel hp f
  | settles hsettled =>
    exact .of_same hcancel' hsettled.store hsettled.context hsettled.active
  | _ => exact .of_same hcancel' rfl rfl rfl

include hc

theorem Sound.run_windsDown : ∀ (events : List Event) {s : RunState}, Sound inv p s → s.isCancelled = true →
    WindsDown p s (s.run p events)
  | [], _, _, hcancel => .of_same hcancel rfl rfl rfl
  | event :: events, s, h, hcancel => by
    have hstep := h.closing_windsDown hcancel (step_closing hcancel event)
    exact hstep.trans (run_windsDown events (h.step hc event) hstep.cancelled)

/-! ## What began -/

omit hc in
theorem Without.served_begun {id : String} (h : Without inv p id s) (hs : Served s id s') :
    (s'.context.results.order ++ s'.active.keys).Perm (id :: (s.context.results.order ++ (s.active.erase id).keys)) := by
  cases hs with
  | waits store hphase =>
    exact ((Entries.keys_insert_perm s.active id _).append_left _).trans List.perm_middle
  | @ends r f hf =>
    have horder : (s.context.record id r).results.order = s.context.results.order ++ [id] := (record_spec h.unrecorded).1
    show ((s.context.record id r).results.order ++ (s.active.erase id).keys).Perm _
    rw [horder, List.append_assoc, List.singleton_append]
    exact List.perm_middle

theorem Sound.step_begun (h : Sound inv p s) (event : Event) :
    ((s.step p event).context.results.order ++ (s.step p event).active.keys).Perm
      (s.context.results.order ++ s.active.keys ++ s.begins event) := by
  have hsame {s' : RunState} (hcontext : s'.context = s.context) (hactive : s'.active = s.active)
      (hnone : s.begins event = []) : (s'.context.results.order ++ s'.active.keys).Perm
        (s.context.results.order ++ s.active.keys ++ s.begins event) := by
    rw [hcontext, hactive, hnone, List.append_nil]
  have hstep := h.stepped hc event
  generalize s.step p event = s' at hstep ⊢
  cases hstep with
  | rests hidle =>
    refine hsame rfl rfl ?_
    cases event with
    | grant id => exact if_neg (by simp [show id ∉ s.line from hidle])
    | _ => rfl
  | turnsAway hcancel => exact hsame rfl rfl (by simp [begins, hcancel])
  | @begins id s' hline hrun hw hattempted =>
    have hbegins : s.begins (.grant id) = [id] := by simp [begins, hline, hrun]
    have hkeys : (s.active.erase id).keys = s.active.keys := by
      rw [Entries.keys_erase, List.erase_of_not_mem (h.not_active hline)]
    rw [hbegins, ← hkeys]
    exact (hw.served_begun hattempted.served).trans (List.perm_append_singleton id _).symm
  | @wakes id phase s' hphase hw hserved =>
    have hkeys := keys_perm_erase (Entries.mem_keys_of_get? hphase)
    rw [show s.begins (.wake id) = [] from rfl, List.append_nil]
    exact (hw.served_begun hserved).trans (List.perm_middle.symm.trans (hkeys.symm.append_left _))
  | settles hget hsettled => exact hsame hsettled.context hsettled.active rfl
  | _ => exact hsame rfl rfl rfl

theorem Sound.run_begun : ∀ (events : List Event) {s : RunState}, Sound inv p s →
    ((s.run p events).context.results.order ++ (s.run p events).active.keys).Perm
      (s.context.results.order ++ s.active.keys ++ s.log begins p events)
  | [], _, _ => by rw [log, List.append_nil]; rfl
  | event :: events, s, h => by
    have ih := run_begun events (h.step hc event)
    rw [log, ← List.append_assoc]
    exact ih.trans ((h.step_begun hc event).append_right _)

theorem Sound.cancelled_done (h : Sound inv p s) (hcancel : s.isCancelled = true) :
    ∃ events, (s.run p events).isDone = true := by
  obtain ⟨events, -, hdone⟩ := simulate_done hc Nat.one_pos _ h (.inl hcancel) (Nat.lt_succ_self _)
  exact ⟨events, hdone⟩

end

end RunState

namespace Engine.Launched

variable {e : Engine} {flow : CompiledWorkflow} {root : String} {p : Plan} {s s' : RunState} {events : List RunState.Event}

theorem begun_perm (h : e.Launched flow root p s) (events : List RunState.Event) :
    ((s.run p events).context.results.order ++ (s.run p events).active.keys).Perm (s.log RunState.begins p events) := by
  have hbegun := h.sound.run_begun h.maintains events
  obtain ⟨horder, hactive⟩ := h.start_empty
  rwa [horder, hactive] at hbegun

theorem recorded_or_left (h : e.Launched flow root p s) (hdone : (s.run p events).isDone = true) {id : String}
    (hid : id ∈ flow.graph.reachableFrom root) : id ∉ (respond p (s.run p events)).results.order ↔
      id ∈ (respond p (s.run p events)).skipped ∨ id ∈ (respond p (s.run p events)).cancelled := by
  have hsound := h.sound.run h.maintains events
  obtain ⟨-, -, hfinished, -⟩ := RunState.isDone_iff.mp hdone
  obtain ⟨t, ht⟩ := Entries.exists_get? (hsound.balanced.stateKeys ▸ hid)
  show id ∉ (s.run p events).context.results.order ↔ id ∈ (s.run p events).readiness.skipped ∨ id ∈ (s.run p events).cancelled p
  rw [hsound.recorded_iff, hfinished, hsound.balanced.skipped_iff, hsound.mem_cancelled_iff h.maintains h.scope_known,
    Readiness.isOpen_iff, ht]
  cases t <;> simp

end Engine.Launched

/-- After whatever events cancelled a run, and whatever follow, the run winds down: it asks no
executor for anything and begins no node, and a node with a slot ends when it wakes. The run
can come to its end. Then just the nodes that had begun have a result, each one, and all
others that the root reaches are skipped or cancelled. -/
theorem Engine.Launched.cancellation_final {e : Engine} {flow : CompiledWorkflow} {root : String} {p : Plan}
    {s s₁ s₂ : RunState} {before after : List RunState.Event} (h : e.Launched flow root p s) (h₁ : s.run p before = s₁)
    (hcancel : s₁.isCancelled = true) (h₂ : s₁.run p after = s₂) :
    s₁.WindsDown p s₂ ∧ s₂.context.results.order.Nodup ∧
    (∀ registry, s₁.run { p with registry } after = s₂) ∧ s₁.log RunState.begins p after = [] ∧
    (∀ id phase, s₂.active.get? id = some phase → (s₂.wake p id).active.get? id = none ∧
      (s₂.wake p id).context.results.get? id = some (phase.result p id)) ∧
    (∃ rest, (s₂.run p rest).isDone = true) ∧
    (s₂.isDone = true → (respond p s₂).results.order.Perm (s.log RunState.begins p before) ∧
      ∀ id ∈ flow.graph.reachableFrom root,
        id ∉ s.log RunState.begins p before ↔ id ∈ (respond p s₂).skipped ∨ id ∈ (respond p s₂).cancelled) := by
  have hc := h.maintains
  have hsound₁ : s₁.Sound _ p := h₁ ▸ h.sound.run hc before
  have hsound₂ : s₂.Sound _ p := h₂ ▸ hsound₁.run hc after
  have hdown : s₁.WindsDown p s₂ := h₂ ▸ RunState.Sound.run_windsDown hc after hsound₁ hcancel
  refine ⟨hdown, hsound₂.orderOnce, fun registry => ?_, RunState.log_begins_cancelled after hcancel, ?_,
    hsound₂.cancelled_done hc hdown.cancelled, fun hdone => ?_⟩
  · rw [← h₂]
    exact RunState.run_registry registry after hcancel
  · intro id phase hp
    have hended := Entries.not_mem_keys_erase id hsound₂.nodup_active
    have hnew := (hsound₂.without_active (Entries.mem_keys_of_get? hp)).unrecorded
    obtain ⟨f, hf⟩ := RunState.wake_cancelled (p := p) hdown.cancelled hp
    rw [hf]
    exact ⟨Entries.get?_eq_none.mpr hended, ((RunState.record_spec hnew).2 id).trans (if_pos rfl)⟩
  · have hrun : s.run p (before ++ after) = s₂ := by
      rw [RunState.run_append, h₁, h₂]
    have hperm : s₂.context.results.order.Perm (s.log RunState.begins p before) := by
      obtain ⟨ids, horder, hids⟩ := hdown.recorded
      rw [(RunState.isDone_iff.mp hdone).2.1, show Entries.keys ([] : Entries Phase) = [] from rfl, List.append_nil] at hids
      have hbegun := h.begun_perm before
      rw [h₁] at hbegun
      rw [horder]
      exact (hids.append_left _).trans hbegun
    refine ⟨hperm, fun id hid => ?_⟩
    have hleft := h.recorded_or_left (hrun ▸ hdone) hid
    rw [hrun] at hleft
    rw [← hleft]
    exact not_congr hperm.mem_iff.symm

/-! ## A route to nowhere -/

namespace Misrouted

/-- The node `pick` names no node while `slow`, which would be tried again, makes its first
attempt and `third` waits for a slot. -/
def workflow : Workflow :=
  { Workflow.empty "flow" "start" with
    nodes := [⟨"start", "set", "start", [], none⟩, ⟨"pick", "set", "pick", [("value", .string "nowhere")], none⟩,
      ⟨"slow", "fail", "slow", [("max_retries", .int 2)], none⟩, ⟨"third", "set", "third", [], none⟩,
      ⟨"left", "set", "left", [], none⟩]
    edges := [("start", .fanOut ["pick", "slow", "third"]), ("pick", .select ["left"]), ("slow", .fanOut ["left"])] }

theorem validate_workflow : workflow.validate .standard = .ok () := eq_ok_of_toOption (by decide)

def flow : CompiledWorkflow := ⟨workflow, _, validate_workflow⟩

def engine : Engine := ⟨Builtin.registry, .standalone, []⟩

def context : Context := ⟨"", [], .null, [], .empty⟩

def before : List RunState.Event :=
  [.queue, .grant "start", .wake "start", .handle "start", .queue, .grant "pick", .grant "slow", .wake "pick", .handle "pick"]

def after : List RunState.Event := [.wake "slow", .handle "slow", .grant "third"]

set_option maxRecDepth 20000 in
theorem ended : ∃ p s, engine.Launched flow "start" p s ∧ (s.run p before).isCancelled = true ∧
    (s.run p before).active.keys = ["slow"] ∧ (s.run p before).line = ["third"] ∧
    ((s.run p before).run p after).isDone = true ∧
    (Engine.respond p ((s.run p before).run p after)).results.order = ["start", "pick", "slow"] ∧
    (Engine.respond p ((s.run p before).run p after)).skipped = ["left"] ∧
    (Engine.respond p ((s.run p before).run p after)).cancelled = ["third"] ∧
    (Engine.respond p ((s.run p before).run p after)).failure = some (.invalidRoute "pick" "nowhere") ∧
    ((s.run p before).run p after).failure.isSome = true := by
  let check (run : Plan × RunState) : Bool :=
    let middle := run.2.run run.1 before
    let final := middle.run run.1 after
    let response := Engine.respond run.1 final
    middle.isCancelled && decide (middle.active.keys = ["slow"]) && decide (middle.line = ["third"]) && final.isDone &&
      decide (response.results.order = ["start", "pick", "slow"]) && decide (response.skipped = ["left"]) &&
      decide (response.cancelled = ["third"]) && decide (response.failure = some (.invalidRoute "pick" "nowhere")) &&
      final.failure.isSome
  have hlaunch : (engine.launch? flow "start" context).any check = true := by decide
  obtain ⟨p, s, h, hcheck⟩ := Engine.Launched.exists_of_launch? (by decide) rfl hlaunch
  simp only [check, Bool.and_eq_true, decide_eq_true_eq, and_assoc] at hcheck
  exact ⟨p, s, h, hcheck⟩

end Misrouted

theorem Engine.Launched.cancellation_final_misrouted : ∃ p s, Misrouted.engine.Launched Misrouted.flow "start" p s ∧
    (s.run p Misrouted.before).isCancelled = true ∧ (s.run p Misrouted.before).active.keys = ["slow"] ∧
    (s.run p Misrouted.before).WindsDown p ((s.run p Misrouted.before).run p Misrouted.after) ∧
    (respond p ((s.run p Misrouted.before).run p Misrouted.after)).results.order.Perm
      (s.log RunState.begins p Misrouted.before) ∧
    ∀ id ∈ Misrouted.flow.graph.reachableFrom "start", id ∉ s.log RunState.begins p Misrouted.before ↔
      id ∈ (respond p ((s.run p Misrouted.before).run p Misrouted.after)).skipped ∨
      id ∈ (respond p ((s.run p Misrouted.before).run p Misrouted.after)).cancelled := by
  obtain ⟨p, s, h, hcancel, hactive, -, hdone, -⟩ := Misrouted.ended
  obtain ⟨hdown, -, -, -, -, -, hends⟩ := h.cancellation_final rfl hcancel rfl
  exact ⟨p, s, h, hcancel, hactive, hdown, hends hdone⟩

end FlowEngine
