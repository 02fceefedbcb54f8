import FlowEngine.Document.Printer
import FlowEngine.Workflow.Routing
import FlowEngine.Workflow.Settings

/-!
# Workflow definitions

A workflow is a list of nodes, the routing of each, and the parameters, settings
and further sections of its document. Adding nodes one by one keeps their ids
distinct, and an id stands for the first node that has it.
-/

namespace FlowEngine

open Document (Value)

structure Node where
  id : String
  kind : String
  label : String
  config : Entries Value
  /-- The node that a timer starts. -/
  handler : Option String
deriving DecidableEq

namespace Node

def schedule? (n : Node) : Option String := (n.config.get? "schedule").bind Value.asText?

def timezone (n : Node) : String :=
  ((n.config.get? "timezone").bind Value.asText?).getD "UTC"

/-- A node is a timer by its type or by having a schedule. -/
def isTimer (n : Node) : Bool := n.kind == "timer" || n.config.contains "schedule"

def maxRetries? (n : Node) : Option Nat :=
  ((n.config.get? "max_retries").bind Value.asNat?).map (min · Settings.retryLimit)

def failOnUnresolved? (n : Node) : Option Bool :=
  (n.config.get? "fail_on_unresolved").bind Value.asBool?

/-- The seconds that one attempt may take. -/
def attemptTimeout? (n : Node) : Option Nat :=
  ((n.config.get? "timeout_seconds").bind Value.asNat?).filter (0 < ·)

end Node

/-- A section that the engine passes through. -/
structure Section where
  name : String
  entries : Entries Value
deriving DecidableEq

structure Workflow where
  name : String
  description : String
  startNode : String
  parameters : Entries Value
  settings : Settings
  nodes : List Node
  edges : List (String × Routing)
  sections : List Section
  /-- The entries of the header without a meaning of their own. -/
  headerExtra : Entries Value
deriving DecidableEq

namespace Workflow

/-- A workflow without nodes. -/
def empty (name startNode : String) : Workflow :=
  { name, description := "", startNode, parameters := [], settings := .default, nodes := [],
    edges := [], sections := [], headerExtra := [] }

def nodeIds (w : Workflow) : List String := w.nodes.map Node.id

def node? (w : Workflow) (id : String) : Option Node := w.nodes.find? fun n => n.id == id

def hasNode (w : Workflow) (id : String) : Bool := (w.node? id).isSome

/-- Add a node unless its id is taken, and whether it was added. -/
def addNode (w : Workflow) (n : Node) : Bool × Workflow :=
  if w.hasNode n.id then (false, w) else (true, { w with nodes := w.nodes ++ [n] })

/-- The routing of a node: its first entry among the edges. -/
def routing (w : Workflow) (id : String) : Routing := (Entries.get? w.edges id).getD .none

def successors (w : Workflow) (id : String) : List String := (w.routing id).targets

def timers (w : Workflow) : List Node := w.nodes.filter Node.isTimer

/-- The variables that the section `env` sets, as text. -/
def environment (w : Workflow) : Entries String :=
  match w.sections.find? fun s => s.name == "env" with
  | some s => s.entries.map fun (k, v) => (k, v.asText?.getD v.text)
  | none => []

end Workflow

end FlowEngine
