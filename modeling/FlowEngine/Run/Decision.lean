import FlowEngine.Error
import FlowEngine.Json.Loose
import FlowEngine.Run.NodeResult
import FlowEngine.Text.Basic
import FlowEngine.Workflow.Definition

/-!
# Routing decisions

Which successors a node that succeeded activates. A decision in the result
itself counts first, then the path that the node's configuration names, then the
shape of the payload.
-/

namespace FlowEngine

open Document (Value)

namespace NodeResult

/-- A path written with dots; empty segments are dropped. -/
def dottedPath (s : String) : List String := (Text.segments s.toList).filter (· != "")

/-- A member of an object that is true or false. -/
def flag? (payload : Json) (key : String) : Option Bool := payload.get? key >>= Json.asBool?

/-- Whether the first of two branches is taken. -/
def branchFlag (r : NodeResult) (on : Option String) : Bool :=
  match r.branch, on with
  | some b, _ => b
  | none, some path => (r.payload.walk? (dottedPath path)).any Json.truthy
  | none, none =>
    match r.payload with
    | .bool b => b
    | payload =>
      ((flag? payload "result").or (flag? payload "condition")).getD payload.truthy

/-- The successor that a result names. -/
def selectTarget? (r : NodeResult) (on : Option String) : Option String :=
  match r.selected, on with
  | some id, _ => some id
  | none, some path =>
    match r.payload.walk? (dottedPath path) with
    | none => none
    | some .null => none
    | some v => some v.plainText
  | none, none =>
    match r.payload with
    | .string s => some s
    | payload =>
      (payload.get? "selected" >>= Json.asString?).or (payload.get? "next" >>= Json.asString?)

end NodeResult

/-- The targets that a succeeded node activates. Selecting anything but a
declared target is an error. -/
def route (n : Node) (r : NodeResult) : Routing → Except FlowError (List String)
  | .fanOut targets => .ok targets
  | .branch targets =>
    let flag := r.branchFlag ((n.config.get? "branch_on").bind Value.asText?)
    .ok (targets[if flag then 0 else 1]?).toList
  | .select targets =>
    match r.selectTarget? ((n.config.get? "select_on").bind Value.asText?) with
    | none => .error (.invalidRoute n.id "")
    | some id => if targets.contains id then .ok [id] else .error (.invalidRoute n.id id)
  | .none => .ok []

end FlowEngine
