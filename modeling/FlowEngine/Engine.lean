import FlowEngine.Catalog
import FlowEngine.Run.Invocation
import FlowEngine.Run.Response
import FlowEngine.Run.Simulation
import FlowEngine.Workflow.Validation

/-!
# The engine

An engine runs the part of a compiled workflow that a root reaches. Before any
node runs, the variables in the configurations of the nodes are replaced and the
parameters are given their values; if that fails, the run fails without results.
A prepared run whose slots or time limit are out of range never starts.
-/

namespace FlowEngine

open Document (Value)

structure Engine where
  registry : Registry
  config : Config
  /-- The environment of the process. -/
  processEnv : Environment

/-- Why a run cannot start although it is prepared. -/
inductive StartFault where
  /-- There are more slots than can be handed out. -/
  | tooManySlots (slots : Nat)
  /-- The time limit ends after the clock does. -/
  | limitBeyondClock (seconds : Nat)
deriving DecidableEq, Repr

def StartFault.message : StartFault → String
  | tooManySlots slots => "the run has too many slots: " ++ toString slots
  | limitBeyondClock seconds =>
    "the run has a time limit beyond the clock: " ++ toString seconds ++ "s"

/-- How a run ended, the store it left behind and the milliseconds it took. -/
structure Completion where
  response : Response
  store : Store
  elapsedMs : Nat

namespace Engine

/-! ## Preparation -/

/-- The environment of a run: that of the process if it is inherited, then what the
workflow sets, then what the caller sets. -/
def environment (e : Engine) (w : Workflow) (overrides : Environment) : Environment :=
  let inherited := if e.config.inheritEnv then Entries.ofList e.processEnv else []
  (inherited.insertAll w.environment).insertAll overrides

/-- A variable as it is written in a text. -/
def variableText (name : String) : String := "$\x7b" ++ name ++ "\x7d"

/-- A node with its variables replaced. An unset variable is an error where
unresolved placeholders are. -/
def prepareNode (w : Workflow) (env : Environment) (n : Node) : Except FlowError Node :=
  let (config, missing) := env.substituteEntries n.config
  match missing, n.failOnUnresolved?.getD w.settings.failOnUnresolved with
  | name :: _, true => .error (.unresolvedPlaceholder n.id (variableText name))
  | _, _ => .ok { n with config }

/-- The node named in errors about parameters. -/
def parametersNode : String := "parameters"

/-- The value of a parameter that the caller does not give: its default, which may
refer to the parameters before it. -/
def parameterDefault (w : Workflow) (store : Store) (c : Context) (default : Value) :
    Except FlowError Json :=
  let strict := w.settings.failOnUnresolved
  let (raw, missing) := c.environment.substituteValue default
  match missing, strict with
  | name :: _, true => .error (.unresolvedPlaceholder parametersNode (variableText name))
  | _, _ =>
    match (Resolver.mk c store strict).resolve raw with
    | .ok v => .ok v
    | .error e => .error (.unresolvedPlaceholder parametersNode e.describe)

/-- Give declared parameters their values in order, and then take over the values
for parameters that are not declared. -/
def bindParameters (w : Workflow) (store : Store) :
    List (String × Value) → Entries Json → Context → Except FlowError Context
  | [], given, c => .ok { c with parameters := c.parameters.insertAll given }
  | (name, default) :: rest, given, c => do
    let (own, given) := given.take name
    let v ← match own with
      | some v => .ok v
      | none => parameterDefault w store c default
    bindParameters w store rest given { c with parameters := c.parameters.insert name v }

/-- The nodes in scope with their variables replaced, and the context with its
parameters. -/
def prepare (w : Workflow) (scope : List String) (store : Store) (given : Entries Json)
    (c : Context) : Except FlowError (List Node × Context) := do
  let nodes ← (w.nodes.filter fun n => scope.contains n.id).mapM (prepareNode w c.environment)
  let c ← bindParameters w store w.parameters given c
  .ok (nodes, c)

/-! ## Runs -/

/-- The slots that the nodes of a workflow share. -/
def slots (e : Engine) (w : Workflow) : Nat :=
  max 1 (w.settings.maxConcurrency.getD e.config.workers)

/-- The most slots that can be handed out: an eighth of what 64 bits count. -/
def maxSlots : Nat := 2305843009213693951

/-- The last second that a clock can show. It counts them in 63 bits. -/
def lastSecond : Nat := 9223372036854775807

/-- What keeps a run of a workflow from starting: first its slots, then its time
limit, which must not end after the clock does. -/
def startFault? (e : Engine) (w : Workflow) (host : Host) : Option StartFault :=
  if maxSlots < e.slots w then some (.tooManySlots (e.slots w))
  else
    (w.settings.timeoutSeconds.filter fun s => lastSecond < host.clock + s).map .limitBeyondClock

def plan (e : Engine) (w : Workflow) (nodes : List Node) (host : Host) : Plan :=
  { workflow := w, nodes, registry := e.registry, host
    backoffMs := w.settings.retryBackoffMs.getD e.config.retryBackoffMs }

/-- A run about to start: its root is ready. -/
def start (flow : CompiledWorkflow) (scope : List String) (root : String) (c : Context)
    (store : Store) : RunState :=
  { clock := 0, context := c, store
    readiness := .initial scope flow.graph.predecessors root
    line := [], active := [], finished := [], fatal := none, failure := none, timedOut := false }

def respond (p : Plan) (s : RunState) : Response :=
  { workflow := p.workflow.name, results := s.context.results, failure := s.error? p,
    skipped := s.readiness.skipped, cancelled := s.cancelled p }

/-- Let a run that is about to start go on to its end. -/
def complete (e : Engine) (p : Plan) (s : RunState) : Completion :=
  let s := s.queue.simulate p (e.slots p.workflow) p.rounds
  ⟨respond p s, s.store, s.clock⟩

/-- Run a workflow from a root. -/
def executeFrom (e : Engine) (flow : CompiledWorkflow) (root : String) (input : Invocation)
    (host : Host) (store : Store) : Except StartFault Completion :=
  let w := flow.workflow
  let scope := flow.graph.reachableFrom root
  if scope.isEmpty then
    .ok ⟨.rejected w.name (.danglingReference "root" root), store, 0⟩
  else
    let context : Context :=
      { workflow := w.name, parameters := [], request := input.request,
        environment := e.environment w input.environment, results := .empty }
    match prepare w scope store input.parameters context with
    | .error err => .ok ⟨.rejected w.name err, store, 0⟩
    | .ok (nodes, context) =>
      match e.startFault? w host with
      | some fault => .error fault
      | none => .ok (e.complete (e.plan w nodes host) (start flow scope root context store))

/-- Run a workflow from its start node. -/
def execute (e : Engine) (flow : CompiledWorkflow) (input : Invocation) (host : Host)
    (store : Store) : Except StartFault Completion :=
  e.executeFrom flow flow.workflow.startNode input host store

/-- Run the workflow that a document describes, unless the document is refused. -/
def executeDocument (e : Engine) (cal : Calendar) (text : String) (input : Invocation) (host : Host)
    (store : Store) : Except FlowError (Except StartFault Completion) :=
  (CompiledWorkflow.ofDocument cal text).map fun flow => e.execute flow input host store

end Engine

end FlowEngine
