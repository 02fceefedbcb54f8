import Mathlib
import FlowEngine.Proofs.Run.Cancellation

/-!
# The verdict on a run

Nodes end one by one, and with that their results are recorded (`recordings`). Each
end is taken into account once, and then the node is complete, but one that ended
later may complete earlier (`completions`). All that a run reports can be read off
these two rows, which hold the same (`Sound.run_perm`). Its results are those of the
nodes that ended, in their order, each telling how its node ended (`Tallies`, kept by
each event), and its errors are the first among the nodes that completed
(`Sound.run_errors`). So the failure is that of the earliest node routed to no
successor, else the time limit, else that of the earliest node that failed
(`verdict`).
-/

namespace FlowEngine

/-! ## What is told of a node -/

/-- The result of a node tells how it ended. A node that failed has an error result, and its
error names it: either the result is the error's own, or it is that of the last attempt. -/
def Finished.Tells (id : String) (r : NodeResult) : Finished → Prop
  | .succeeded r' => r' = r ∧ r.status.isOk = true
  | .failed e => r.status.isOk = false ∧ e.node? = some id ∧ e.phase = .run ∧
      (r = .failure e.message ∨ ∃ k, e = .nodeExecution id k (r.message.getD NodeResult.defaultMessage))

def Finished.error? : Finished → Option FlowError
  | .succeeded _ => none
  | .failed e => some e

/-- The error of a node that succeeded but was routed to no successor. -/
def Plan.misroute? (p : Plan) : String × Finished → Option FlowError
  | (_, .failed _) => none
  | (id, .succeeded r) => (p.workflow.node? id).bind fun n =>
      match route n r (p.workflow.routing id) with
      | .ok _ => none
      | .error e => some e

theorem route_error {n : Node} {r : NodeResult} {x : Routing} {e : FlowError} (h : route n r x = .error e) :
    ∃ selected, e = .invalidRoute n.id selected := by
  cases x with
  | select ts =>
    simp only [route] at h
    split at h
    · cases h
      exact ⟨"", rfl⟩
    split at h
    · cases h
    · cases h
      exact ⟨_, rfl⟩
  | _ => cases h

theorem Plan.misroute?_eq_some {p : Plan} {c : String × Finished} {e : FlowError} : p.misroute? c = some e ↔
    ∃ r n, c.2 = .succeeded r ∧ p.workflow.node? c.1 = some n ∧ route n r (p.workflow.routing c.1) = .error e := by
  obtain ⟨id, f⟩ := c
  cases f with
  | failed e' => simp [misroute?]
  | succeeded r =>
    cases hn : p.workflow.node? id with
    | none => simp [misroute?, hn]
    | some n =>
      cases hr : route n r (p.workflow.routing id) with
      | ok ts => simp [misroute?, hn, hr]
      | error e' => simp [misroute?, hn, hr]

theorem Plan.misroute?_invalidRoute {p : Plan} {c : String × Finished} {e : FlowError} (h : p.misroute? c = some e) :
    ∃ selected, e = .invalidRoute c.1 selected := by
  obtain ⟨r, n, -, hn, hr⟩ := misroute?_eq_some.mp h
  have hid : n.id = c.1 := by simpa using List.find?_some hn
  rw [← hid]
  exact route_error hr

theorem exists_failed {done : Entries Finished} :
    done.findSome? (·.2.error?) ≠ none ↔ ∃ id err, (id, .failed err) ∈ done := by
  rw [ne_eq, List.findSome?_eq_none_iff]
  constructor
  · intro h
    by_contra hno
    refine h fun c hmem => ?_
    obtain ⟨id, f⟩ := c
    cases f with
    | succeeded r => rfl
    | failed err => exact absurd ⟨id, err, hmem⟩ hno
  · rintro ⟨id, err, hmem⟩ h
    cases h _ hmem

theorem Plan.exists_misrouted {p : Plan} {done : Entries Finished} : done.findSome? p.misroute? ≠ none ↔
    ∃ id r n selected, (id, .succeeded r) ∈ done ∧ p.workflow.node? id = some n ∧
      route n r (p.workflow.routing id) = .error (.invalidRoute id selected) := by
  constructor
  · intro h
    obtain ⟨err, herr⟩ := Option.ne_none_iff_exists'.mp h
    obtain ⟨c, hmem, hc⟩ := List.exists_of_findSome?_eq_some herr
    obtain ⟨selected, rfl⟩ := misroute?_invalidRoute hc
    obtain ⟨r, n, hr, hn, hroute⟩ := misroute?_eq_some.mp hc
    exact ⟨c.1, r, n, selected, hr ▸ hmem, hn, hroute⟩
  · rintro ⟨id, r, n, selected, hmem, hn, hroute⟩ h
    have hnone := List.findSome?_eq_none_iff.mp h _ hmem
    rw [misroute?_eq_some.mpr ⟨r, n, rfl, hn, hroute⟩] at hnone
    cases hnone

namespace RunState

def records (p : Plan) (s : RunState) (event : Event) : Entries Finished :=
  (s.step p event).finished.drop s.finished.length

/-- The node whose end an event takes into account, with how it ended. -/
def completes (s : RunState) : Event → Entries Finished
  | .handle id => (s.finished.get? id).toList.map fun f => (id, f)
  | _ => []

/-- The nodes that end over a row of events, in the order in which they record their results. -/
abbrev recordings (p : Plan) (s : RunState) (events : List Event) : Entries Finished := s.log (records p) p events

/-- The nodes that complete over a row of events, in the order in which their ends are taken into
account. -/
abbrev completions (p : Plan) (s : RunState) (events : List Event) : Entries Finished := s.log completes p events

theorem completes_idle {s : RunState} {event : Event} (h : s.Idle event) : s.completes event = [] ∧ .expire ≠ event := by
  cases event with
  | handle id =>
    have hnone : s.finished.get? id = none := h
    simp [completes, hnone]
  | expire => cases h
  | _ => exact ⟨rfl, by simp⟩

/-! ## The errors of a run -/

theorem Served.errors {s s' : RunState} {id : String} (h : Served s id s') :
    s'.fatal = s.fatal ∧ s'.failure = s.failure ∧ s'.timedOut = s.timedOut := ⟨h.fatal, h.failure, h.timedOut⟩

theorem Settled.errors {p : Plan} {s s' : RunState} {id : String} {f : Finished} (h : Settled p s id f s') :
    s'.fatal = s.fatal.or (p.misroute? (id, f)) ∧ s'.failure = s.failure.or f.error? ∧ s'.timedOut = s.timedOut := by
  cases h with
  | failed e => exact ⟨(Option.or_none).symm, rfl, rfl⟩
  | routed hn hr => simp [Plan.misroute?, Finished.error?, hn, hr]
  | misrouted hn hr => simp [Plan.misroute?, Finished.error?, hn, hr]
  | unknown hn => simp [Plan.misroute?, Finished.error?, hn]

section
variable {inv : Readiness → Prop} {p : Plan} {scope : List String} {s : RunState} (hc : p.Maintains scope inv)
include hc

theorem Sound.step_errors (h : Sound inv p s) (event : Event) :
    (s.step p event).fatal = s.fatal.or ((s.completes event).findSome? p.misroute?) ∧
    (s.step p event).failure = s.failure.or ((s.completes event).findSome? (·.2.error?)) ∧
    (s.step p event).timedOut = (s.timedOut || decide (.expire = event)) := by
  have hsame {event : Event} {s' : RunState} (he : s'.fatal = s.fatal ∧ s'.failure = s.failure ∧ s'.timedOut = s.timedOut)
      (hnone : s.completes event = [] ∧ .expire ≠ event) :
      s'.fatal = s.fatal.or ((s.completes event).findSome? p.misroute?) ∧
      s'.failure = s.failure.or ((s.completes event).findSome? (·.2.error?)) ∧
      s'.timedOut = (s.timedOut || decide (.expire = event)) := by
    simpa [hnone] using he
  have hstep := h.stepped hc event
  generalize s.step p event = s' at hstep ⊢
  cases hstep with
  | rests hidle => exact hsame ⟨rfl, rfl, rfl⟩ (completes_idle hidle)
  | begins hline hrun hw hattempted => exact hsame hattempted.served.errors ⟨rfl, by simp⟩
  | wakes hphase hw hserved => exact hsame hserved.errors ⟨rfl, by simp⟩
  | settles hget hsettled => simpa [completes, hget] using hsettled.errors
  | expires => simp [completes]
  | _ => exact hsame ⟨rfl, rfl, rfl⟩ ⟨rfl, by simp⟩

theorem Sound.run_errors : ∀ (events : List Event) {s : RunState}, Sound inv p s →
    (s.run p events).fatal = s.fatal.or ((s.completions p events).findSome? p.misroute?) ∧
    (s.run p events).failure = s.failure.or ((s.completions p events).findSome? (·.2.error?)) ∧
    (s.run p events).timedOut = (s.timedOut || decide (.expire ∈ events))
  | [], s, _ => by simp [RunState.run, log]
  | event :: events, s, h => by
    obtain ⟨hfatal, hfailure, htimed⟩ := h.step_errors hc event
    obtain ⟨ihfatal, ihfailure, ihtimed⟩ := run_errors events (h.step hc event)
    have hrun : s.run p (event :: events) = (s.step p event).run p events := rfl
    rw [hrun, completions, log, List.findSome?_append, List.findSome?_append]
    refine ⟨?_, ?_, ?_⟩
    · rw [ihfatal, hfatal, Option.or_assoc]
    · rw [ihfailure, hfailure, Option.or_assoc]
    · rw [ihtimed, htimed, Bool.or_assoc]
      simp only [List.mem_cons, Bool.decide_or]

end

/-! ## The results of a run -/

inductive Told (s : RunState) (id : String) (s' : RunState) : Prop
  | waits (hcontext : s'.context = s.context) (hfinished : s'.finished = s.finished)
  | ends {r : NodeResult} {f : Finished} (h : f.Tells id r) (hcontext : s'.context = s.context.record id r)
    (hfinished : s'.finished = s.finished ++ [(id, f)])

section
variable {p : Plan} {s : RunState} {id : String}

theorem told_abort {e : FlowError} (hnode : e.node? = some id) (hphase : e.phase = .run) : Told s id (s.abort id e) :=
  .ends (f := .failed e) ⟨status_failure _, hnode, hphase, .inl rfl⟩ rfl rfl

theorem told_giveUp {k : Nat} {r : NodeResult} (hr : r.status.isOk = false) : Told s id (s.giveUp id k r) :=
  .ends (f := .failed _) ⟨hr, rfl, rfl, .inr ⟨k, rfl⟩⟩ rfl rfl

theorem told_attemptNode (k : Nat) : Told s id (s.attemptNode p id k) := by
  unfold attemptNode
  cases hn : p.node? id with
  | none => exact .waits rfl rfl
  | some n =>
    have hid : n.id = id := by simpa using List.find?_some hn
    simp only
    split
    · exact told_abort rfl rfl
    split
    · unfold attempt resolveConfig
      cases (Resolver.mk s.context s.store (p.isStrict n)).resolveEntries n.config with
      | error e =>
        rw [hid]
        exact told_abort rfl rfl
      | ok config => exact .waits rfl rfl
    · exact .waits rfl rfl

theorem told_conclude (k : Nat) (r : NodeResult) : Told s id (s.conclude p id k r) := by
  unfold conclude
  split
  · rename_i hr
    exact .ends (f := .succeeded r) ⟨rfl, hr⟩ rfl rfl
  · rename_i hr
    simp only
    split
    · split
      · exact told_attemptNode (k + 1)
      · exact .waits rfl rfl
    · exact told_giveUp (by simpa using hr)

theorem told_grant : Told s id (s.grant p id) := by
  unfold grant
  split
  · simp only
    split
    · exact .waits rfl rfl
    · have htold : Told { s with line := s.line.erase id } id (attemptNode p { s with line := s.line.erase id } id 1) :=
        told_attemptNode 1
      cases htold with
      | waits hcontext hfinished => exact .waits hcontext hfinished
      | ends h hcontext hfinished => exact .ends h hcontext hfinished
  · exact .waits rfl rfl

theorem told_wake {phase : Phase} (hp : s.active.get? id = some phase) (hr : phase.Retryable) :
    Told s id (s.wake p id) := by
  unfold wake
  rw [hp]
  cases phase with
  | attempting k r due => exact told_conclude k r
  | backingOff k r due =>
    simp only
    split
    · exact told_giveUp hr
    · exact told_attemptNode (k + 1)
  | broken => exact told_abort rfl rfl

end

/-- The results are those of the nodes that ended, in that order, each telling how its node ended. -/
def Tallies (s : RunState) (recorded : Entries Finished) : Prop :=
  List.Forall₂ (fun entry c => entry.1 = c.1 ∧ c.2.Tells c.1 entry.2) s.context.results.entries recorded

/-- What an event does to the ends of nodes: nothing, a node ends and its result is recorded, or
an end is taken into account. -/
inductive Moved (s : RunState) (event : Event) (s' : RunState) : Prop
  | rests (hcontext : s'.context = s.context) (hfinished : s'.finished = s.finished) (hnone : s.completes event = [])
  | ends {id : String} {r : NodeResult} {f : Finished} (hnew : id ∉ s.context.results.order) (h : f.Tells id r)
    (hcontext : s'.context = s.context.record id r) (hfinished : s'.finished = s.finished ++ [(id, f)])
    (hnone : s.completes event = [])
  | completes {id : String} {f : Finished} (hget : s.finished.get? id = some f) (hcontext : s'.context = s.context)
    (hfinished : s'.finished = s.finished.erase id) (hone : s.completes event = [(id, f)])

theorem Told.moved {s s' : RunState} {id : String} {event : Event} (h : Told s id s')
    (hnew : id ∉ s.context.results.order) (hnone : s.completes event = []) : Moved s event s' := by
  cases h with
  | waits hcontext hfinished => exact .rests hcontext hfinished hnone
  | ends hf hcontext hfinished => exact .ends hnew hf hcontext hfinished hnone

section
variable {inv : Readiness → Prop} {p : Plan} {scope : List String} {s : RunState} (hc : p.Maintains scope inv)
include hc

theorem Sound.moved (h : Sound inv p s) (event : Event) : Moved s event (s.step p event) := by
  have hstep := h.stepped hc event
  generalize he : s.step p event = s' at hstep ⊢
  cases hstep with
  | rests hidle => exact .rests rfl rfl (completes_idle hidle).1
  | begins hline hrun hw hattempted =>
    rw [← he]
    exact told_grant.moved hw.unrecorded rfl
  | wakes hphase hw hserved =>
    rw [← he]
    exact (told_wake hphase (h.retryable _ _ (Entries.mem_of_get? hphase))).moved hw.unrecorded rfl
  | settles hget hsettled => exact .completes hget hsettled.context hsettled.finished (by simp [completes, hget])
  | _ => exact .rests rfl rfl rfl

theorem Sound.step_tallies (h : Sound inv p s) {recorded : Entries Finished} (ht : s.Tallies recorded) (event : Event) :
    (s.step p event).Tallies (recorded ++ s.records p event) := by
  unfold Tallies records
  cases h.moved hc event with
  | rests hcontext hfinished hnone => rwa [hcontext, hfinished, List.drop_length, List.append_nil]
  | ends hnew hf hcontext hfinished hnone =>
    rw [hcontext, hfinished, record_entries hnew, List.drop_left]
    exact List.rel_append ht (.cons ⟨rfl, hf⟩ .nil)
  | @completes id f hget hcontext hfinished hone =>
    have hlength := (Entries.erase_sublist s.finished id).length_le
    rwa [hcontext, hfinished, List.drop_of_length_le hlength, List.append_nil]

theorem Sound.step_perm (h : Sound inv p s) (event : Event) :
    (s.finished ++ s.records p event).Perm (s.completes event ++ (s.step p event).finished) := by
  unfold records
  cases h.moved hc event with
  | rests hcontext hfinished hnone => rw [hfinished, hnone, List.drop_length, List.append_nil, List.nil_append]
  | ends hnew hf hcontext hfinished hnone => rw [hfinished, hnone, List.drop_left, List.nil_append]
  | @completes id f hget hcontext hfinished hone =>
    have hlength := (Entries.erase_sublist s.finished id).length_le
    rw [hfinished, hone, List.drop_of_length_le hlength, List.append_nil]
    exact Entries.perm_cons_erase hget

theorem Sound.run_tallies : ∀ (events : List Event) {s : RunState} {recorded : Entries Finished}, Sound inv p s →
    s.Tallies recorded → (s.run p events).Tallies (recorded ++ s.recordings p events)
  | [], s, recorded, _, ht => by rwa [recordings, log, List.append_nil]
  | event :: events, s, recorded, h, ht => by
    have ih := run_tallies events (h.step hc event) (h.step_tallies hc ht event)
    rwa [List.append_assoc] at ih

/-- Both rows hold the same nodes once all that ended are complete. -/
theorem Sound.run_perm : ∀ (events : List Event) {s : RunState}, Sound inv p s →
    (s.finished ++ s.recordings p events).Perm (s.completions p events ++ (s.run p events).finished)
  | [], s, _ => by
    rw [recordings, completions, log, log, List.append_nil, List.nil_append]
    rfl
  | event :: events, s, h => by
    have ih := run_perm events (h.step hc event)
    calc s.finished ++ (s.records p event ++ (s.step p event).recordings p events)
        = (s.finished ++ s.records p event) ++ (s.step p event).recordings p events := (List.append_assoc ..).symm
      _ |>.Perm ((s.completes event ++ (s.step p event).finished) ++ (s.step p event).recordings p events) :=
          (h.step_perm hc event).append_right _
      _ = s.completes event ++ ((s.step p event).finished ++ (s.step p event).recordings p events) := List.append_assoc ..
      _ |>.Perm (s.completes event ++ ((s.step p event).completions p events ++ ((s.step p event).run p events).finished)) :=
          ih.append_left _
      _ = (s.completes event ++ (s.step p event).completions p events) ++ ((s.step p event).run p events).finished :=
          (List.append_assoc ..).symm

end

end RunState

namespace Engine.Launched

variable {e : Engine} {flow : CompiledWorkflow} {root : String} {p : Plan} {s : RunState} {events : List RunState.Event}

theorem start_fresh (h : e.Launched flow root p s) :
    s.finished = [] ∧ (s.fatal = none ∧ s.failure = none ∧ s.timedOut = false) ∧ s.Tallies [] := by
  have hentries : s.context.results.entries = [] := List.map_eq_nil_iff.mp h.start_empty.1
  obtain ⟨store, given, c, c', nodes, host, -, -, -, rfl⟩ := h.start
  refine ⟨rfl, ⟨rfl, rfl, rfl⟩, ?_⟩
  rw [RunState.Tallies, hentries]
  exact .nil

theorem tallied (h : e.Launched flow root p s) (events : List RunState.Event) :
    List.Forall₂ (fun entry c => entry.1 = c.1 ∧ c.2.Tells c.1 entry.2) (respond p (s.run p events)).results.entries
      (s.recordings p events) := by
  have htallies := h.sound.run_tallies h.maintains events h.start_fresh.2.2
  rwa [List.nil_append] at htallies

theorem completed_perm (h : e.Launched flow root p s) (events : List RunState.Event) :
    (s.recordings p events).Perm (s.completions p events ++ (s.run p events).finished) := by
  have hperm := h.sound.run_perm h.maintains events
  rwa [h.start_fresh.1, List.nil_append] at hperm

theorem exists_told (h : e.Launched flow root p s) {c : String × Finished} (hmem : c ∈ s.completions p events) :
    ∃ n, (c.1, n) ∈ (respond p (s.run p events)).results.entries ∧ c.2.Tells c.1 n := by
  obtain ⟨hlength, htells⟩ := List.forall₂_iff_get.mp (h.tallied events)
  obtain ⟨i, rfl⟩ := List.mem_iff_get.mp ((h.completed_perm events).mem_iff.mpr (List.mem_append_left _ hmem))
  obtain ⟨hid, htells⟩ := htells i (by rw [hlength]; exact i.2) i.2
  refine ⟨_, ?_, htells⟩
  rw [← hid]
  exact List.get_mem _ _

theorem failure_eq (h : e.Launched flow root p s) (events : List RunState.Event) :
    (respond p (s.run p events)).failure = ((s.completions p events).findSome? p.misroute?).or
      ((if .expire ∈ events then some (.timeout (p.settings.timeoutSeconds.getD 0)) else none).or
        ((s.completions p events).findSome? (·.2.error?))) := by
  obtain ⟨hfatal, hfailure, htimed⟩ := h.sound.run_errors h.maintains events
  obtain ⟨hfatal₀, hfailure₀, htimed₀⟩ := h.start_fresh.2.1
  show (s.run p events).error? p = _
  rw [RunState.error?, hfatal, hfailure, htimed, hfatal₀, hfailure₀, htimed₀]
  simp

end Engine.Launched

/-- However a run comes to its end, its results tell of the nodes that ended, in that order, and
just these complete, in an order of their own. The run is in error just if one of them failed
or was routed to no successor, or the time limit expired; what it reports is the earliest
completion with a routing to no successor, else the time limit, else the error of the earliest
completion of a node that failed. -/
theorem Engine.Launched.verdict {e : Engine} {flow : CompiledWorkflow} {root : String} {p : Plan} {s : RunState}
    {events : List RunState.Event} (h : e.Launched flow root p s) (hdone : (s.run p events).isDone = true) :
    List.Forall₂ (fun entry c => entry.1 = c.1 ∧ c.2.Tells c.1 entry.2) (respond p (s.run p events)).results.entries
      (s.recordings p events) ∧
    (s.recordings p events).Perm (s.completions p events) ∧
    ((respond p (s.run p events)).statusText = "error" ↔
      (∃ id err, (id, .failed err) ∈ s.completions p events) ∨
      (∃ id r n selected, (id, .succeeded r) ∈ s.completions p events ∧ p.workflow.node? id = some n ∧
        route n r (p.workflow.routing id) = .error (.invalidRoute id selected)) ∨
      .expire ∈ events) ∧
    (respond p (s.run p events)).failure = ((s.completions p events).findSome? p.misroute?).or
      ((if .expire ∈ events then some (.timeout (p.settings.timeoutSeconds.getD 0)) else none).or
        ((s.completions p events).findSome? (·.2.error?))) ∧
    ∀ c ∈ s.completions p events, ∀ err, p.misroute? c = some err → ∃ selected, err = .invalidRoute c.1 selected := by
  have hfailure := h.failure_eq events
  have hperm := h.completed_perm events
  rw [(RunState.isDone_iff.mp hdone).2.2.1, List.append_nil] at hperm
  refine ⟨h.tallied events, hperm, ?_, hfailure, fun c _ err => Plan.misroute?_invalidRoute⟩
  have herror : (respond p (s.run p events)).statusText = "error" ↔ (respond p (s.run p events)).failure ≠ none := by
    cases hf : (respond p (s.run p events)).failure with
    | none => simp [Response.statusText, Response.isSuccess, hf]
    | some err => simp [Response.statusText, Response.isSuccess, hf]
  rw [herror, hfailure, ← exists_failed, ← p.exists_misrouted]
  by_cases hexpired : RunState.Event.expire ∈ events
  · simp [hexpired]
  · simp only [hexpired, if_false, Option.none_or, or_false, ne_eq, Option.or_eq_none_iff, not_and_or]
    exact or_comm

/-! ## A node that is overtaken -/

namespace Overtaken

def workflow : Workflow :=
  { Workflow.empty "flow" "start" with
    nodes := [⟨"start", "set", "start", [], none⟩, ⟨"left", "fail", "left", [], none⟩, ⟨"right", "fail", "right", [], none⟩]
    edges := [("start", .fanOut ["left", "right"])] }

theorem validate_workflow : workflow.validate .standard = .ok () := eq_ok_of_toOption (by decide)

def flow : CompiledWorkflow := ⟨workflow, _, validate_workflow⟩

def engine : Engine := ⟨Builtin.registry, .standalone, []⟩

def context : Context := ⟨"", [], .null, [], .empty⟩

/-- The node `left` ends first and completes last. -/
def events : List RunState.Event :=
  [.queue, .grant "start", .wake "start", .handle "start", .queue, .grant "left", .grant "right", .wake "left",
    .wake "right", .handle "right", .handle "left"]

set_option maxRecDepth 20000 in
theorem ended : ∃ p s, engine.Launched flow "start" p s ∧ (s.run p events).isDone = true ∧
    (Engine.respond p (s.run p events)).results.order = ["start", "left", "right"] ∧
    (s.completions p events).keys = ["start", "right", "left"] ∧
    ((s.completions p events).findSome? (·.2.error?)).isSome = true ∧
    (Engine.respond p (s.run p events)).failure = some (.nodeExecution "right" 1 "node failed") := by
  let check (run : Plan × RunState) : Bool :=
    let final := run.2.run run.1 events
    let response := Engine.respond run.1 final
    final.isDone && decide (response.results.order = ["start", "left", "right"]) &&
      decide ((run.2.completions run.1 events).keys = ["start", "right", "left"]) &&
      ((run.2.completions run.1 events).findSome? (·.2.error?)).isSome &&
      decide (response.failure = some (.nodeExecution "right" 1 "node failed"))
  have hlaunch : (engine.launch? flow "start" context).any check = true := by decide
  obtain ⟨p, s, h, hcheck⟩ := Engine.Launched.exists_of_launch? (by decide) rfl hlaunch
  simp only [check, Bool.and_eq_true, decide_eq_true_eq, and_assoc] at hcheck
  exact ⟨p, s, h, hcheck⟩

end Overtaken

/-- The node that completed first is what is reported, although the other one ended before it. -/
theorem Engine.Launched.verdict_overtaken : ∃ p s, Overtaken.engine.Launched Overtaken.flow "start" p s ∧
    (s.run p Overtaken.events).isDone = true ∧
    (respond p (s.run p Overtaken.events)).results.order = ["start", "left", "right"] ∧
    (s.completions p Overtaken.events).keys = ["start", "right", "left"] ∧
    (∃ id err, (id, .failed err) ∈ s.completions p Overtaken.events) ∧
    (respond p (s.run p Overtaken.events)).statusText = "error" ∧
    (respond p (s.run p Overtaken.events)).failure = some (.nodeExecution "right" 1 "node failed") := by
  obtain ⟨p, s, h, hdone, horder, hkeys, hfailed, hfailure⟩ := Overtaken.ended
  have hnode := exists_failed.mp (Option.isSome_iff_ne_none.mp hfailed)
  obtain ⟨-, -, hstatus, -⟩ := h.verdict hdone
  exact ⟨p, s, h, hdone, horder, hkeys, hnode, hstatus.mpr (.inl hnode), hfailure⟩

end FlowEngine
