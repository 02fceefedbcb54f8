import FlowEngine.Run.NodeResult
import FlowEngine.Run.Store
import FlowEngine.Text.Basic

/-!
# Node types

An executor is what a node type does in one attempt, given the resolved
configuration of the node. Attempts take time, which an action states instead of
spending it.
-/

namespace FlowEngine

/-- Who runs: a node of a workflow in a numbered attempt. -/
structure NodeContext where
  workflow : String
  nodeId : String
  kind : String
  label : String
  handler : Option String
  /-- Counted from 1. -/
  attempt : Nat
  /-- The time of the run, as text. -/
  time : String

inductive Outcome where
  | result (r : NodeResult)
  /-- A failure with its causes, outermost first. -/
  | failure (causes : List String)
  | panic

/-- How an outcome counts as a result. -/
def Outcome.toResult : Outcome → NodeResult
  | result r => r
  | failure causes => .failure (": ".intercalate causes)
  | panic => .failure "node panicked"

/-- What one attempt does: how many milliseconds it takes, how it ends and the
store it leaves behind. -/
structure Action where
  delay : Nat
  outcome : Outcome
  store : Store

abbrev Executor := Entries Json → NodeContext → Store → Action

/-- An action that takes no time and leaves the store alone. -/
def Action.now (outcome : Outcome) (store : Store) : Action := ⟨0, outcome, store⟩

/-- An executor that only looks at its configuration. -/
def Executor.pure (f : Entries Json → Outcome) : Executor := fun config _ store =>
  .now (f config) store

/-! ## Reading configurations -/

namespace Entries

def text? (config : Entries Json) (key : String) : Option String :=
  config.get? key >>= Json.asString?

def flag? (config : Entries Json) (key : String) : Option Bool := config.get? key >>= Json.asBool?

def int? (config : Entries Json) (key : String) : Option Int := config.get? key >>= Json.asInt64?

def binary64? (config : Entries Json) (key : String) : Option Binary64 :=
  (config.get? key >>= Json.asNumber?).map Json.Number.toBinary64

end Entries

/-! ## Registries -/

/-- The executors of node types. -/
abbrev Registry := Entries Executor

/-- The names of the node types, sorted. -/
def Registry.kinds (r : Registry) : List String := Text.sorted (Entries.keys r)

end FlowEngine
