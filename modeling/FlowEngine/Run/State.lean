import FlowEngine.Config
import FlowEngine.Placeholder.Resolver
import FlowEngine.Run.Decision
import FlowEngine.Run.Executor
import FlowEngine.Run.Readiness

/-!
# Runs as state machines

The state of a run and the events that move it on. Which events happen, and in
what order, is not decided here: a node given a slot from the line makes its
attempts, nodes that finished have their outcomes taken into account in any order,
and the time limit may expire at any point.

Once a run is cancelled, by a routing to no successor or by the time limit, no
node starts, attempts under way end, and nothing is retried.

An event is one step. For a node that gets a slot or goes on to its next attempt,
the check whether the run is cancelled, the resolution of its configuration and the
call of its executor are one event. For a node that ends, so are the recording of
its result and the return of its slot; its outcome is taken into account by a later
event.
-/

namespace FlowEngine

/-- What a run takes from the system that it runs on. -/
structure Host where
  /-- The time at the start of the run, as text. -/
  time : String
  /-- The seconds on the clock at the start of the run. -/
  clock : Nat
  /-- What is said of the task of a node that broke down. -/
  breakdown : String → String

/-- What a run is about; it does not change. -/
structure Plan where
  workflow : Workflow
  /-- The nodes in scope, their variables replaced, in the order of declaration. -/
  nodes : List Node
  registry : Registry
  /-- The delay before the first retry. -/
  backoffMs : Nat
  host : Host

namespace Plan

def node? (p : Plan) (id : String) : Option Node := p.nodes.find? fun n => n.id == id

def settings (p : Plan) : Settings := p.workflow.settings

def maxRetries (p : Plan) (n : Node) : Nat := n.maxRetries?.getD p.settings.maxRetries

def isStrict (p : Plan) (n : Node) : Bool := n.failOnUnresolved?.getD p.settings.failOnUnresolved

/-- The error of a node of which the task broke down. -/
def breakdown (p : Plan) (id : String) : FlowError :=
  .nodeExecution id 0 ("node task aborted: " ++ p.host.breakdown id)

end Plan

/-! ## Retries -/

/-- The delay in milliseconds before the retry that follows an attempt: it doubles
with every attempt, within 64 bits, up to a limit. -/
def backoff (base attempt : Nat) : Nat :=
  let doubled := base * Nat.pow 2 (min (attempt - 1) 16)
  min (min doubled (nat64End - 1)) Config.maxBackoffMs

/-- What an attempt comes to after how many milliseconds, given its time limit in
seconds. -/
def underLimit (limit : Option Nat) (a : Action) : Nat × NodeResult :=
  match limit with
  | none => (a.delay, a.outcome.toResult)
  | some s =>
    if 1000 * s ≤ a.delay then
      (1000 * s, .failure ("attempt timed out after " ++ toString s ++ "s"))
    else (a.delay, a.outcome.toResult)

/-! ## States -/

/-- What a node with a slot is doing, until a point in time. -/
inductive Phase where
  /-- An attempt is under way and will have the given result. -/
  | attempting (attempt : Nat) (result : NodeResult) (due : Nat)
  /-- The attempt failed and the next one is due. -/
  | backingOff (attempt : Nat) (last : NodeResult) (due : Nat)
  /-- The task of the node broke down, which has yet to be noticed. -/
  | broken

def Phase.due : Phase → Nat
  | attempting _ _ t => t
  | backingOff _ _ t => t
  | broken => 0

/-- How a node ended. -/
inductive Finished where
  | succeeded (r : NodeResult)
  | failed (e : FlowError)

structure RunState where
  /-- Milliseconds since the start. -/
  clock : Nat
  context : Context
  store : Store
  readiness : Readiness
  /-- The nodes that wait for a slot. -/
  line : List String
  /-- The nodes that have a slot. -/
  active : Entries Phase
  /-- The nodes that finished and have not been taken into account. -/
  finished : Entries Finished
  /-- The first routing to no successor. -/
  fatal : Option FlowError
  /-- The error of the first node that failed. -/
  failure : Option FlowError
  timedOut : Bool

namespace RunState

def isCancelled (s : RunState) : Bool := s.fatal.isSome || s.timedOut

/-! ## A node ends -/

/-- A node gives its slot back with a result. -/
def finish (s : RunState) (id : String) (r : NodeResult) (f : Finished) : RunState :=
  { s with context := s.context.record id r, active := s.active.erase id,
           finished := s.finished ++ [(id, f)] }

/-- A node ends with an error that did not come out of an attempt. -/
def abort (s : RunState) (id : String) (e : FlowError) : RunState :=
  s.finish id (.failure e.message) (.failed e)

/-- A node ends with the result of its last attempt, which failed. -/
def giveUp (s : RunState) (id : String) (attempts : Nat) (last : NodeResult) : RunState :=
  s.finish id last
    (.failed (.nodeExecution id attempts (last.message.getD NodeResult.defaultMessage)))

/-! ## Attempts -/

def nodeContext (p : Plan) (n : Node) (attempt : Nat) : NodeContext :=
  ⟨p.workflow.name, n.id, n.kind, n.label, n.handler, attempt, p.host.time⟩

/-- The configuration of a node, resolved against what is there now. -/
def resolveConfig (p : Plan) (s : RunState) (n : Node) : Except FlowError (Entries Json) :=
  match (Resolver.mk s.context s.store (p.isStrict n)).resolveEntries n.config with
  | .ok config => .ok (Entries.ofList config)
  | .error e => .error (.unresolvedPlaceholder n.id e.describe)

/-- Start an attempt of a node. -/
def attempt (p : Plan) (s : RunState) (n : Node) (execute : Executor) (k : Nat) : RunState :=
  match s.resolveConfig p n with
  | .error e => s.abort n.id e
  | .ok config =>
    let action := execute config (nodeContext p n k) s.store
    let (duration, result) := underLimit n.attemptTimeout? action
    { s with store := action.store,
             active := s.active.insert n.id (.attempting k result (s.clock + duration)) }

/-- The last attempt that can be counted in 32 bits. -/
def lastAttempt : Nat := nat32End - 1

/-- The task of a node breaks down. -/
def breakDown (s : RunState) (id : String) : RunState := { s with active := s.active.insert id .broken }

/-- Start an attempt of the node with the given id, if it is in scope. Counting too far
breaks its task down. -/
def attemptNode (p : Plan) (s : RunState) (id : String) (k : Nat) : RunState :=
  match p.node? id with
  | none => s
  | some n =>
    match p.registry.get? n.kind with
    | none => s.abort id (.unknownNodeType id n.kind)
    | some execute => if k ≤ lastAttempt then s.attempt p n execute k else s.breakDown id

/-! ## Events -/

inductive Event where
  /-- Nodes that are ready join the line. -/
  | queue
  /-- A node of the line gets a slot. -/
  | grant (id : String)
  /-- What a node with a slot waits for has come. -/
  | wake (id : String)
  /-- The outcome of a node that finished is taken into account. -/
  | handle (id : String)
  /-- The time limit of the run expires. -/
  | expire
  /-- Time passes. -/
  | pass (ms : Nat)
deriving DecidableEq, Repr

def queue (s : RunState) : RunState :=
  if s.isCancelled then s
  else
    let (ids, readiness) := s.readiness.start
    { s with readiness, line := s.line ++ ids }

/-- A cancelled run turns the node away. -/
def grant (p : Plan) (s : RunState) (id : String) : RunState :=
  if s.line.contains id then
    let s := { s with line := s.line.erase id }
    if s.isCancelled then s else s.attemptNode p id 1
  else s

/-- An attempt of a node ended with a result. -/
def conclude (p : Plan) (s : RunState) (id : String) (k : Nat) (r : NodeResult) : RunState :=
  if r.status.isOk then s.finish id r (.succeeded r)
  else
    let retries := (p.node? id).elim 0 p.maxRetries
    if k ≤ retries ∧ s.isCancelled = false then
      let delay := backoff p.backoffMs k
      if delay = 0 then s.attemptNode p id (k + 1)
      else { s with active := s.active.insert id (.backingOff k r (s.clock + delay)) }
    else s.giveUp id k r

def wake (p : Plan) (s : RunState) (id : String) : RunState :=
  match s.active.get? id with
  | none => s
  | some (.attempting k r _) => s.conclude p id k r
  | some (.backingOff k r _) =>
    if s.isCancelled then s.giveUp id k r else s.attemptNode p id (k + 1)
  | some .broken => s.abort id (p.breakdown id)

/-- Take the end of a node into account: what it activates, and what it releases. -/
def settle (p : Plan) (s : RunState) (id : String) : Finished → RunState
  | .failed e =>
    { s with failure := s.failure.or (some e),
             readiness := s.readiness.settle p.workflow.successors id .failed }
  | .succeeded r =>
    match (p.workflow.node? id).map fun n => route n r (p.workflow.routing id) with
    | some (.ok targets) =>
      let activated := s.readiness.activate targets
      { s with readiness := activated.settle p.workflow.successors id .succeeded }
    | some (.error e) =>
      { s with fatal := s.fatal.or (some e),
               readiness := s.readiness.settle p.workflow.successors id .succeeded }
    | none => { s with readiness := s.readiness.settle p.workflow.successors id .succeeded }

def handle (p : Plan) (s : RunState) (id : String) : RunState :=
  match s.finished.get? id with
  | none => s
  | some f => { s with finished := s.finished.erase id }.settle p id f

def expire (s : RunState) : RunState := { s with timedOut := true }

def step (p : Plan) (s : RunState) : Event → RunState
  | .queue => s.queue
  | .grant id => s.grant p id
  | .wake id => s.wake p id
  | .handle id => s.handle p id
  | .expire => s.expire
  | .pass ms => { s with clock := s.clock + ms }

/-- The state after a row of events. -/
def run (p : Plan) (s : RunState) (events : List Event) : RunState := events.foldl (step p) s

/-- Whether nothing is under way any more. -/
def isDone (s : RunState) : Bool :=
  s.line.isEmpty && s.active.isEmpty && s.finished.isEmpty
    && (s.isCancelled || s.readiness.ready.isEmpty)

/-! ## The end -/

/-- The error that a run reports: a routing to no successor before the time limit,
and that before the first node that failed. -/
def error? (p : Plan) (s : RunState) : Option FlowError :=
  s.fatal.or ((if s.timedOut then some (.timeout (p.settings.timeoutSeconds.getD 0)) else none).or
    s.failure)

/-- The nodes that never settled, in the order of declaration. -/
def cancelled (p : Plan) (s : RunState) : List String :=
  p.workflow.nodeIds.filter s.readiness.isOpen

end RunState

end FlowEngine
