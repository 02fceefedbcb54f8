import Mathlib
import FlowEngine.Proofs.Placeholder.Lookup
import FlowEngine.Proofs.Run.Verdict

/-!
# Answers and their JSON

A run answers in one of three ways (`Engine.Answers`), and what the engine executes
is one of these answers. The JSON of an answer lists the nodes that ended, in
their order, and in a node that holds it the payload of each can be looked up by
the path to it (`addressable`): a path is walked part by part, so what stands
behind the payload in the path is walked in the payload.
-/

namespace FlowEngine

/-! ## Answers -/

/-- What a run from a root answers, with the nodes that ended: the root is unknown, the
preparation fails, or the run comes to its end after whatever events. -/
inductive Engine.Answers (e : Engine) (flow : CompiledWorkflow) (root : String) :
    List (String × Finished) → Response → Prop
  | unknown (h : root ∉ flow.workflow.nodeIds) :
    Answers e flow root [] (.rejected flow.workflow.name (.danglingReference "root" root))
  | unprepared {store : Store} {given : Entries Json} {c : Context} {err : FlowError}
    (h : prepare flow.workflow (flow.graph.reachableFrom root) store given c = .error err) :
    Answers e flow root [] (.rejected flow.workflow.name err)
  | ended {p : Plan} {s : RunState} {events : List RunState.Event} (h : e.Launched flow root p s)
    (hdone : (s.run p events).isDone = true) :
    Answers e flow root (s.recordings p events) (respond p (s.run p events))

namespace Engine.Answers

variable {e : Engine} {flow : CompiledWorkflow} {root : String} {done : List (String × Finished)} {r : Response}

theorem of_executeFrom (hids : flow.workflow.nodeIds.Nodup) {input : Invocation} {host : Host} {store : Store}
    {c : Completion} (h : e.executeFrom flow root input host store = .ok c) :
    ∃ done, e.Answers flow root done c.response := by
  rcases Launched.executeFrom_cases hids h with ⟨hroot, rfl⟩ | ⟨_, err, hprepare, rfl⟩ | ⟨p, s, events, hrun, hdone, rfl⟩
  · exact ⟨[], .unknown hroot⟩
  · exact ⟨[], .unprepared hprepare⟩
  · exact ⟨_, .ended hrun hdone⟩

theorem tallied (h : e.Answers flow root done r) :
    List.Forall₂ (fun entry c => entry.1 = c.1 ∧ c.2.Tells c.1 entry.2) r.results.entries done := by
  cases h with
  | unknown h => exact .nil
  | unprepared h => exact .nil
  | ended h hdone => exact h.tallied _

theorem order_eq (h : e.Answers flow root done r) : r.results.order = done.map (·.1) := by
  rw [← List.forall₂_eq_eq_eq, Results.order, Entries.keys, List.forall₂_map_left_iff, List.forall₂_map_right_iff]
  exact h.tallied.imp fun _ _ ht => ht.1

theorem nodup_order (h : e.Answers flow root done r) : r.results.order.Nodup := by
  cases h with
  | unknown h => exact List.nodup_nil
  | unprepared h => exact List.nodup_nil
  | ended h hdone => exact (h.sound.run h.maintains _).orderOnce

end Engine.Answers

/-! ## Paths into an answer -/

theorem NodeResult.step?_toJson (n : NodeResult) : n.toJson.step? "result" = some n.payload := by
  cases hm : n.message with
  | none => simp [toJson, Json.step?, member?, Entries.get?, hm]
  | some m => simp [toJson, Json.step?, member?, Entries.get?, hm]

namespace Response

variable (r : Response) (stamp : Stamp)

theorem walk?_results : (r.toJson stamp).walk? ["result", "results"]
    = some (.object (r.results.entries.map fun (id, n) => (id, n.toJson))) := by
  simp [toJson, resultsJson, Json.walk?, Json.step?, Entries.get?]

theorem walk?_payload {id : String} {n : NodeResult} (h : r.results.get? id = some n) (q : List String) :
    (r.toJson stamp).walk? (["result", "results", id, "result"] ++ q) = n.payload.walk? q := by
  have hnode : (Json.object (r.results.entries.map fun (id, n) => (id, n.toJson))).step? id = some n.toJson := by
    rw [Json.step?, Entries.get?_map_values NodeResult.toJson, ← Results.get?, h]
    rfl
  calc (r.toJson stamp).walk? (["result", "results"] ++ ([id, "result"] ++ q))
      = (Json.object (r.results.entries.map fun (id, n) => (id, n.toJson))).walk? ([id, "result"] ++ q) := by
        rw [Json.walk?_append, walk?_results, Option.bind_some]
    _ = n.toJson.walk? (["result"] ++ q) := by
        rw [List.cons_append, Json.walk?, hnode, Option.bind_some]
    _ = n.payload.walk? q := by
        rw [List.cons_append, Json.walk?, NodeResult.step?_toJson, Option.bind_some, List.nil_append]

end Response

/-- The JSON of an answer lists the nodes that ended, in their order and each once; in a
node with that JSON as its payload, what stands in the payload of any of them is found
directly, at any path. -/
theorem Engine.Answers.addressable {e : Engine} {flow : CompiledWorkflow} {root : String}
    {done : List (String × Finished)} {r : Response} (h : e.Answers flow root done r) (stamp : Response.Stamp) :
    (∃ members, (r.toJson stamp).walk? ["result", "results"] = some (.object members) ∧
      Entries.keys members = r.results.order ∧ r.results.order = done.map (·.1) ∧ (Entries.keys members).Nodup) ∧
    ∀ host : NodeResult, host.payload = r.toJson stamp → ∀ id n, r.results.get? id = some n →
      ∀ q v, n.payload.walk? q = some v →
        host.lookup? (["result", "results", id, "result"] ++ q) = some (.direct, v) := by
  refine ⟨⟨_, r.walk?_results stamp, ?_⟩, ?_⟩
  · have hkeys : Entries.keys (r.results.entries.map fun (id, n) => (id, n.toJson)) = r.results.order := by
      simp [Entries.keys, Results.order, Function.comp_def]
    exact ⟨hkeys, h.order_eq, hkeys ▸ h.nodup_order⟩
  · intro host hhost id n hn q v hv
    refine NodeResult.lookup?_direct ?_
    rw [hhost, r.walk?_payload stamp hn, hv]

/-! ## A payload with parts -/

namespace Nested

def workflow : Workflow :=
  { Workflow.empty "flow" "start" with
    nodes := [⟨"start", "set", "start", [("value", .map [("items", .list [.string "a", .string "b"])])], none⟩] }

theorem validate_workflow : workflow.validate .standard = .ok () := eq_ok_of_toOption (by decide)

def flow : CompiledWorkflow := ⟨workflow, _, validate_workflow⟩

def engine : Engine := ⟨Builtin.registry, .standalone, []⟩

def context : Context := ⟨"", [], .null, [], .empty⟩

def events : List RunState.Event := [.queue, .grant "start", .wake "start", .handle "start"]

set_option maxRecDepth 20000 in
theorem ended : ∃ p s, engine.Launched flow "start" p s ∧ (s.run p events).isDone = true ∧
    ∃ n, (Engine.respond p (s.run p events)).results.get? "start" = some n ∧
      n.payload.walk? ["items", "1"] = some (.string "b") := by
  let check (run : Plan × RunState) : Bool :=
    let final := run.2.run run.1 events
    final.isDone && ((Engine.respond run.1 final).results.get? "start").any fun n =>
      (n.payload.walk? ["items", "1"]).any fun v => v.asString? == some "b"
  have hlaunch : (engine.launch? flow "start" context).any check = true := by decide
  obtain ⟨p, s, h, hcheck⟩ := Engine.Launched.exists_of_launch? (by decide) rfl hlaunch
  simp only [check, Bool.and_eq_true, Option.any_eq_true, beq_iff_eq] at hcheck
  obtain ⟨hdone, n, hn, v, hv, htext⟩ := hcheck
  refine ⟨p, s, h, hdone, n, hn, ?_⟩
  cases v with
  | string t =>
    cases htext
    exact hv
  | _ => cases htext

end Nested

theorem Engine.Answers.addressable_nested : ∃ done r, Nested.engine.Answers Nested.flow "start" done r ∧
    ∀ stamp, (NodeResult.success (r.toJson stamp)).lookup? ["result", "results", "start", "result", "items", "1"]
      = some (.direct, .string "b") := by
  obtain ⟨p, s, h, hdone, n, hn, hv⟩ := Nested.ended
  have hanswers := Answers.ended h hdone
  exact ⟨_, _, hanswers, fun stamp => (hanswers.addressable stamp).2 _ rfl "start" n hn ["items", "1"] _ hv⟩

end FlowEngine
