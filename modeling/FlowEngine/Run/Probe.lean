import FlowEngine.Run.Executor

/-!
# Probe node types

Node types that make a run visible from within: they take time, fail or panic on
demand, and tell what they were given. Except for `panic`, what they answer goes
through the same reading as any JSON reply.
-/

namespace FlowEngine.Probe

/-- A reply that says success. -/
def success (payload : Json) : Outcome :=
  .result (.ofReply (.object [("status", .string "success"), ("result", payload)]))

/-- Answers with its configuration. -/
def echo (config : Entries Json) : Outcome := success (.object config)

/-- The longest sleep in milliseconds: thirty years of 365 days. -/
def longestSleep : Nat := 946080000000

/-- Sleeps `ms` milliseconds; a negative number counts as none. The answer has the
full number, also where the sleep is cut short. -/
def sleep : Executor := fun config _ store =>
  let ms := ((config.int? "ms").getD 0).toNat
  ⟨min ms longestSleep, success (.object [("slept", .int ms)]), store⟩

/-- Answers with the identity of the node and the views of its entry `v`. -/
def whoami : Executor := fun config context store =>
  .now (success (.object
    [("workflow", .string context.workflow), ("node_id", .string context.nodeId),
      ("node_type", .string context.kind), ("label", .string context.label),
      ("handler", .ofOption .string context.handler), ("attempt", .int context.attempt),
      ("str", .ofOption .string (config.text? "v")), ("bool", .ofOption .bool (config.flag? "v")),
      ("i64", .ofOption .int (config.int? "v")),
      ("f64", .ofOption .ofBinary64 (config.binary64? "v")),
      ("keys", .strings config.keys)])) store

/-- Needs the text `v` and answers with it. -/
def require (config : Entries Json) : Outcome :=
  match config.text? "v" with
  | some s => success (.string s)
  | none => .failure ["missing 'v' parameter"]

/-- Plays one of its `replies` for each attempt, the last for all further ones. A
reply may sleep `sleep_ms` milliseconds and may `bail` out with a list of causes. -/
def script : Executor := fun config context store =>
  let replies := (config.get? "replies" >>= Json.asArray?).getD []
  let reply := (replies[min context.attempt replies.length - 1]?).getD .null
  let delay := min ((reply.get? "sleep_ms" >>= Json.asInt64?).getD 0).toNat longestSleep
  match reply.get? "bail" >>= Json.asArray? with
  | some causes => ⟨delay, .failure (causes.filterMap Json.asString?), store⟩
  | none => ⟨delay, .result (.ofReply reply), store⟩

def registry : Registry :=
  [("echo", .pure echo), ("panic", .pure fun _ => .panic), ("sleep", sleep), ("whoami", whoami),
    ("require", .pure require), ("script", script)]

end FlowEngine.Probe
