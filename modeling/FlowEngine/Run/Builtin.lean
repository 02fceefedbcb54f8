import FlowEngine.Json.Loose
import FlowEngine.Run.Executor

/-!
# Built-in node types

Control flow (`if`, `switch`), `timer`, `storage`, and the two small types `set`
and `fail`. All of them take no time, so that no time limit of an attempt can hit
them; for `storage` this assumes a store that answers at once.
-/

namespace FlowEngine.Builtin

open Json (int)

/-- Branches on whether `condition` counts as true. -/
def ifNode (config : Entries Json) : Outcome :=
  let condition := (config.get? "condition").any Json.truthy
  .result { NodeResult.success (.bool condition) with branch := some condition }

/-- Where a value leads: through the table `cases` and then `default` if there is
a table, else to the node it names. -/
def switchTarget? (config : Entries Json) (key : String) : Option String :=
  match config.get? "cases" >>= Json.asObject? with
  | some cases => (Entries.get? cases key).elim (config.text? "default") (some ·.plainText)
  | none => if key = "" then none else some key

def switchNode (config : Entries Json) : Outcome :=
  let value := (config.get? "value").getD .null
  let key := value.plainText
  match switchTarget? config key with
  | some target =>
    .result { NodeResult.success (.object [("value", value), ("selected", .string target)]) with
      selected := some target }
  | none => .failure ["no case matches '" ++ key ++ "' and no default is set"]

/-- Reports its schedule; firing is not the work of the node. -/
def timerNode : Executor := fun config context store =>
  .now (.result (.success (.object
    [("schedule", (config.get? "schedule").getD .null),
      ("timezone", .string ((config.text? "timezone").getD "UTC")),
      ("handler", .ofOption .string context.handler),
      ("fired_at", .string context.time)]))) store

/-- What a storage node may do with its key. -/
inductive Operation where
  | set (value : Json)
  | get
  | delete
  | increment (amount : Int)

/-- The operation that a configuration asks for; `get` if it names none. -/
def operation? (config : Entries Json) : Except String Operation :=
  match (config.text? "operation").getD "get" with
  | "set" => .ok (.set ((config.get? "value").getD .null))
  | "get" => .ok .get
  | "delete" => .ok .delete
  | "increment" => .ok (.increment ((config.int? "by").getD 1))
  | other => .error ("unknown storage operation '" ++ other ++ "'")

def Operation.run (key : String) (store : Store) : Operation → Outcome × Store
  | set value =>
    let (old, store) := store.set key value
    (.result (.success (.object
      [("key", .string key), ("value", value), ("previous", .ofOption id old)])), store)
  | get =>
    match store.get? key with
    | some value =>
      (.result (.success (.object
        [("key", .string key), ("value", value), ("found", .bool true)])), store)
    | none =>
      (.result (.warning ("key '" ++ key ++ "' not found") (.object
        [("key", .string key), ("value", .null), ("found", .bool false)])), store)
  | delete =>
    let (old, store) := store.delete key
    (.result (.success (.object [("key", .string key), ("deleted", .bool old.isSome)])), store)
  | increment amount =>
    match store.increment key amount with
    | .ok (value, store) =>
      (.result (.success (.object [("key", .string key), ("value", int value)])), store)
    | .error e => (.failure [e.message], store)

/-- The failure of a node that lacks a text it needs. -/
def missingParameter (key : String) : Outcome := .failure ["missing '" ++ key ++ "' parameter"]

/-- Sets, gets, deletes or increments one key of the store. -/
def storageNode : Executor := fun config _ store =>
  match config.text? "key" with
  | none => .now (missingParameter "key") store
  | some key =>
    match operation? config with
    | .error message => .now (.failure [message]) store
    | .ok op =>
      let (outcome, store) := op.run key store
      .now outcome store

/-- Emits `value`, or the whole configuration when there is none. -/
def setNode (config : Entries Json) : Outcome :=
  .result (.success ((config.get? "value").getD (.object config)))

def failNode (config : Entries Json) : Outcome :=
  .result (.failure ((config.text? "message").getD "node failed"))

def registry : Registry :=
  [("if", .pure ifNode), ("switch", .pure switchNode), ("timer", timerNode),
    ("storage", storageNode), ("set", .pure setNode), ("fail", .pure failNode)]

end FlowEngine.Builtin
