/-!
# Routing

How a node that succeeded picks the successors to activate among its targets.
-/

namespace FlowEngine

inductive Routing where
  /-- All of the targets. -/
  | fanOut (targets : List String)
  /-- The first target if a condition holds, else the second. -/
  | branch (targets : List String)
  /-- The one target that the node names. -/
  | select (targets : List String)
  | none
deriving DecidableEq, Repr

namespace Routing

/-- The declared successors. -/
def targets : Routing → List String
  | fanOut ts => ts
  | branch ts => ts
  | select ts => ts
  | none => []

/-- The name of the discipline. -/
def kindName : Routing → String
  | fanOut _ => "fan-out"
  | branch _ => "boolean-branch"
  | select _ => "dynamic-select"
  | none => "none"

end Routing

end FlowEngine
