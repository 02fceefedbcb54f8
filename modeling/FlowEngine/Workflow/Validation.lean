import FlowEngine.Error
import FlowEngine.Graph.Cycle
import FlowEngine.Schedule.Calendar
import FlowEngine.Workflow.Definition

/-!
# Validation

A workflow can run when its references lead to nodes, its timers can fire by some
calendar, and what its roots reach has no cycle and routes to as many targets as its routing
needs. `Workflow.compile` checks this and gives the workflow with its graph.
-/

namespace FlowEngine

namespace Workflow

/-! ## References -/

/-- Fail with the first reference that leads to no node. -/
def checkTargets (w : Workflow) (source : String) : List String → Except FlowError Unit
  | [] => .ok ()
  | t :: ts =>
    if w.hasNode t then w.checkTargets source ts else .error (.danglingReference source t)

def checkEdges (w : Workflow) : List (String × Routing) → Except FlowError Unit
  | [] => .ok ()
  | (source, r) :: es => do
    if !w.hasNode source then .error (.danglingReference "edges" source)
    w.checkTargets source r.targets
    w.checkEdges es

/-! ## Timers -/

def checkTimer (w : Workflow) (cal : Calendar) (n : Node) : Except FlowError Unit :=
  match n.schedule? with
  | none => .error (.invalidSchedule n.id .missing)
  | some schedule =>
    if n.handler.isNone then .error (.invalidRouting n.id .timerWithoutHandler)
    else if !(w.successors n.id).isEmpty then .error (.invalidRouting n.id .timerWithEdges)
    else
      match cal.scheduleFault? schedule with
      | some reason => .error (.invalidSchedule n.id (.notCron schedule reason))
      | none =>
        if !cal.isTimezone n.timezone then .error (.invalidSchedule n.id (.unknownTimezone n.timezone))
        else .ok ()

def checkNode (w : Workflow) (cal : Calendar) (n : Node) : Except FlowError Unit := do
  match n.handler with
  | some h => if !w.hasNode h then .error (.danglingReference n.id h)
  | none => .ok ()
  if n.isTimer then w.checkTimer cal n

def checkNodes (w : Workflow) (cal : Calendar) : List Node → Except FlowError Unit
  | [] => .ok ()
  | n :: ns => do
    w.checkNode cal n
    w.checkNodes cal ns

/-! ## The graph -/

def graph (w : Workflow) : Graph :=
  ⟨w.nodeIds, w.edges.flatMap fun (source, r) => r.targets.map fun t => (source, t)⟩

/-- The start node and the handlers of timers, each once. -/
def roots (w : Workflow) : List String :=
  (w.startNode :: w.timers.filterMap Node.handler).eraseDups

/-- The nodes that some root reaches, in the order of their declaration. -/
def reachable (w : Workflow) : List String :=
  let reached := w.roots.flatMap w.graph.reachableFrom
  w.nodeIds.filter reached.contains

/-- What is wrong with the targets of a routing. -/
def routingFault? : Routing → Option RoutingFault
  | .branch ts => if ts.length = 2 then none else some (.branchTargets ts.length)
  | .select [] => some .noCandidates
  | _ => none

def checkRoutings (w : Workflow) : List String → Except FlowError Unit
  | [] => .ok ()
  | id :: ids =>
    match routingFault? (w.routing id) with
    | some fault => .error (.invalidRouting id fault)
    | none => w.checkRoutings ids

/-- Succeeds exactly for a workflow that can run. -/
def validate (w : Workflow) (cal : Calendar) : Except FlowError Unit := do
  if !w.hasNode w.startNode then .error (.danglingReference "start_node" w.startNode)
  w.checkEdges w.edges
  w.checkNodes cal w.nodes
  match w.graph.cycle? w.reachable with
  | some path => .error (.cycle path)
  | none => .ok ()
  w.checkRoutings w.reachable

end Workflow

/-- A workflow that passed validation by some calendar. -/
structure CompiledWorkflow where
  workflow : Workflow
  valid : ∃ cal, workflow.validate cal = .ok ()

namespace CompiledWorkflow

def graph (c : CompiledWorkflow) : Graph := c.workflow.graph

def roots (c : CompiledWorkflow) : List String := c.workflow.roots

def name (c : CompiledWorkflow) : String := c.workflow.name

/-- The ids of the timers in the order of their declaration. -/
def timerIds (c : CompiledWorkflow) : List String := c.workflow.timers.map Node.id

end CompiledWorkflow

def Workflow.compile (w : Workflow) (cal : Calendar) : Except FlowError CompiledWorkflow :=
  match h : w.validate cal with
  | .ok () => .ok ⟨w, cal, h⟩
  | .error e => .error e

end FlowEngine
