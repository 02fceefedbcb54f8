import FlowEngine.Json.Value

/-!
# Node results

What a node answers: a status, a message, a payload and the routing decision it
made, if any. `ofReply` reads a JSON reply; one without a known status is an
error result.
-/

namespace FlowEngine

inductive Status where
  | success
  | error
  | warning
deriving DecidableEq, Repr

namespace Status

/-- A warning lets the run go on past the node, as a success does. -/
def isOk : Status → Bool
  | success => true
  | warning => true
  | error => false

def text : Status → String
  | success => "success"
  | error => "error"
  | warning => "warning"

def ofText? : String → Option Status
  | "success" => some success
  | "error" => some error
  | "warning" => some warning
  | _ => none

theorem ofText?_text (s : Status) : ofText? s.text = some s := by cases s <;> rfl

end Status

structure NodeResult where
  status : Status
  message : Option String
  payload : Json
  /-- The decision of a node with two branches. -/
  branch : Option Bool
  /-- The successor picked by a node that selects one. -/
  selected : Option String

namespace NodeResult

def success (payload : Json) : NodeResult := ⟨.success, none, payload, none, none⟩

def warning (message : String) (payload : Json) : NodeResult :=
  ⟨.warning, some message, payload, none, none⟩

def failure (message : String) : NodeResult := ⟨.error, some message, .null, none, none⟩

/-- The answer to a reply without a known status. -/
def withoutStatus : NodeResult := failure "missing status field"

/-- The message of an error that names none. -/
def defaultMessage : String := "node reported an error"

/-- The result that a JSON reply stands for. -/
def ofReply (reply : Json) : NodeResult :=
  match reply.get? "status" >>= Json.asString? >>= Status.ofText? with
  | none => withoutStatus
  | some status =>
    let message := reply.get? "message" >>= Json.asString?
    { status
      message := if status = .error then some (message.getD defaultMessage) else message
      payload := (reply.get? "result").getD .null
      branch := reply.get? "selectedBranch" >>= Json.asBool?
      selected := reply.get? "selectedNode" >>= Json.asString? }

/-- A member that is left out when there is no value for it. -/
def member? (key : String) (value : Option Json) : List (String × Json) :=
  value.toList.map fun v => (key, v)

/-- The part of a result that placeholders can address. -/
def envelope (r : NodeResult) : Json :=
  .object ([("status", .string r.status.text)] ++ member? "message" (r.message.map .string)
    ++ [("result", r.payload)])

/-- The full JSON form. -/
def toJson (r : NodeResult) : Json :=
  .object ([("status", .string r.status.text)] ++ member? "message" (r.message.map .string)
    ++ [("result", r.payload)] ++ member? "selectedBranch" (r.branch.map .bool)
    ++ member? "selectedNode" (r.selected.map .string))

end NodeResult

/-! ## The results of a run

They stand in the order in which they were recorded. A node has one result: the
first recorded stays. -/

structure Results where
  entries : Entries NodeResult

namespace Results

def empty : Results := ⟨[]⟩

def get? (rs : Results) (id : String) : Option NodeResult := Entries.get? rs.entries id

def contains (rs : Results) (id : String) : Bool := Entries.contains rs.entries id

/-- The nodes in the order of their results. -/
def order (rs : Results) : List String := Entries.keys rs.entries

def size (rs : Results) : Nat := rs.entries.length

/-- Record a result unless the node has one, and whether it was recorded. -/
def record (rs : Results) (id : String) (r : NodeResult) : Bool × Results :=
  if rs.contains id then (false, rs) else (true, ⟨rs.entries ++ [(id, r)]⟩)

end Results

end FlowEngine
