import FlowEngine.Document.Fault

/-!
# Errors

Everything that can go wrong with a document, a workflow or a run, as causes.
`message` is the one place that words them.
-/

namespace FlowEngine

/-- What can be wrong with the routing of a node. -/
inductive RoutingFault where
  | branchTargets (count : Nat)
  | noCandidates
  | timerWithoutHandler
  | timerWithEdges
deriving DecidableEq, Repr

def RoutingFault.message : RoutingFault → String
  | branchTargets count =>
    "boolean-branch needs exactly two successors [true, false], found " ++ toString count
  | noCandidates => "dynamic-select needs at least one candidate successor"
  | timerWithoutHandler => "timer node has no handler"
  | timerWithEdges => "timer node must not declare edges; it routes through its handler"

/-- What can be wrong with the schedule of a timer. -/
inductive ScheduleFault where
  | missing
  | notCron (schedule reason : String)
  | unknownTimezone (name : String)
deriving DecidableEq, Repr

def ScheduleFault.message : ScheduleFault → String
  | missing => "timer node has no schedule"
  | notCron schedule reason => "'" ++ schedule ++ "': " ++ reason
  | unknownTimezone name => "unknown timezone '" ++ name ++ "'"

inductive ErrorPhase where
  | parse
  | validation
  | run
deriving DecidableEq, Repr

def ErrorPhase.text : ErrorPhase → String
  | parse => "parse"
  | validation => "validation"
  | run => "run"

inductive FlowError where
  | malformed (e : Document.SyntaxError)
  | schema (fault : Document.SchemaFault)
  | cycle (path : List String)
  | danglingReference (source target : String)
  | invalidRouting (node : String) (fault : RoutingFault)
  | invalidSchedule (node : String) (fault : ScheduleFault)
  | unknownNodeType (node kind : String)
  | unresolvedPlaceholder (node expression : String)
  | nodeExecution (node : String) (attempts : Nat) (message : String)
  | invalidRoute (node selected : String)
  | timeout (seconds : Nat)
deriving DecidableEq, Repr

namespace FlowError

/-- When an error arises: while a document is read, while a workflow is checked,
or while it runs. -/
def phase : FlowError → ErrorPhase
  | malformed _ | schema _ => .parse
  | cycle _ | danglingReference .. | invalidRouting .. | invalidSchedule .. => .validation
  | _ => .run

def kindName : FlowError → String
  | malformed _ => "SyntaxError"
  | schema _ => "SchemaError"
  | cycle _ => "CycleError"
  | danglingReference .. => "DanglingReferenceError"
  | invalidRouting .. => "InvalidRoutingError"
  | invalidSchedule .. => "InvalidScheduleError"
  | unknownNodeType .. => "UnknownNodeType"
  | unresolvedPlaceholder .. => "UnresolvedPlaceholderError"
  | nodeExecution .. => "NodeExecutionError"
  | invalidRoute .. => "InvalidRouteError"
  | timeout _ => "TimeoutError"

/-- The node an error belongs to. -/
def node? : FlowError → Option String
  | invalidRouting node _ => some node
  | invalidSchedule node _ => some node
  | unknownNodeType node _ => some node
  | unresolvedPlaceholder node _ => some node
  | nodeExecution node _ _ => some node
  | invalidRoute node _ => some node
  | danglingReference source _ => some source
  | malformed _ | schema _ | cycle _ | timeout _ => none

def message : FlowError → String
  | malformed e => "syntax error on line " ++ toString e.line ++ ": " ++ e.fault.message
  | schema fault => "schema error: " ++ fault.message
  | cycle path => "cycle detected: " ++ " -> ".intercalate path
  | danglingReference source target =>
    "dangling reference: '" ++ source ++ "' points at unknown node '" ++ target ++ "'"
  | invalidRouting node fault => "invalid routing for node '" ++ node ++ "': " ++ fault.message
  | invalidSchedule node fault =>
    "invalid schedule on timer node '" ++ node ++ "': " ++ fault.message
  | unknownNodeType node kind => "unknown node type '" ++ kind ++ "' for node '" ++ node ++ "'"
  | unresolvedPlaceholder node expression =>
    "unresolved placeholder '" ++ expression ++ "' in node '" ++ node ++ "'"
  | nodeExecution node attempts text =>
    "node '" ++ node ++ "' failed after " ++ toString attempts ++ " attempt(s): " ++ text
  | invalidRoute node selected =>
    "node '" ++ node ++ "' selected '" ++ selected ++ "', which is not a declared successor"
  | timeout seconds => "run timed out after " ++ toString seconds ++ "s"

end FlowError

end FlowEngine
