import FlowEngine.Run.NodeResult

/-!
# Looking into a node's result

A path may name the payload as `result` or leave that out, and may leave out a
`result` that the payload itself holds. Four strategies are tried in order and
the first that finds a value wins.
-/

namespace FlowEngine

inductive Strategy where
  /-- The path as it stands, from the payload. -/
  | direct
  /-- The path without a leading `result`, from the payload. -/
  | unwrapped
  /-- The path from the `result` that the payload holds. -/
  | nested
  /-- The last segment alone, from the payload or else the envelope. -/
  | flat
deriving DecidableEq, Repr

namespace Strategy

def name : Strategy → String
  | direct => "direct"
  | unwrapped => "wrapper-skip"
  | nested => "prefix-add"
  | flat => "raw-lookup"

/-- The strategies in the order in which they are tried. -/
def all : List Strategy := [direct, unwrapped, nested, flat]

def find? (s : Strategy) (r : NodeResult) (path : List String) : Option Json :=
  match s with
  | direct => r.payload.walk? path
  | unwrapped =>
    match path with
    | "result" :: rest => r.payload.walk? rest
    | _ => none
  | nested =>
    if path.head? = some "result" then none
    else (r.payload.get? "result").bind (·.walk? path)
  | flat => path.getLast?.bind fun key => (r.payload.get? key).or (r.envelope.get? key)

end Strategy

/-- The value at a path of a result, and the strategy that found it. -/
def NodeResult.lookup? (r : NodeResult) (path : List String) : Option (Strategy × Json) :=
  Strategy.all.findSome? fun s => (s.find? r path).map fun v => (s, v)

end FlowEngine
