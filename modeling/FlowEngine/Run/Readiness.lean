import FlowEngine.Entries

/-!
# Readiness

Which nodes of a run may start. A node is ready once all of its predecessors in
the run have settled and one of them activated it; when all have settled and
none did, it is skipped, and settles in its turn.
-/

namespace FlowEngine

inductive NodeState where
  | pending
  /-- Handed out to be run. -/
  | started
  | succeeded
  | failed
  | skipped
deriving DecidableEq, Repr

/-- Whether a node has settled for good. -/
def NodeState.isTerminal : NodeState → Bool
  | pending => false
  | started => false
  | succeeded => true
  | failed => true
  | skipped => true

structure Readiness where
  state : Entries NodeState
  /-- How many predecessors of a node have not settled. -/
  waiting : Entries Nat
  activated : List String
  /-- The nodes that may start, longest ready first. -/
  ready : List String
  /-- The nodes that were skipped, in that order. -/
  skipped : List String

namespace Readiness

/-- The start of a run: of the nodes in scope only the root is ready. -/
def initial (scope : List String) (predecessors : String → List String) (root : String) :
    Readiness :=
  { state := scope.map fun id => (id, .pending)
    waiting := scope.map fun id => (id, ((predecessors id).filter scope.contains).length)
    activated := [root]
    ready := [root]
    skipped := [] }

def activate (r : Readiness) (ids : List String) : Readiness :=
  { r with activated := r.activated ++ ids }

def setState (r : Readiness) (id : String) (s : NodeState) : Readiness :=
  { r with state := r.state.insert id s }

/-- Count one more settled predecessor of a node. If it was the last, the node
becomes ready or is skipped; in the latter case it is put on the work list. -/
def release (acc : Readiness × List String) (id : String) : Readiness × List String :=
  let (r, todo) := acc
  match r.waiting.get? id with
  | none => (r, todo)
  | some remaining =>
    let r := { r with waiting := r.waiting.insert id (remaining - 1) }
    if 0 < remaining - 1 ∨ r.state.get? id ≠ some .pending then (r, todo)
    else if r.activated.contains id then ({ r with ready := r.ready ++ [id] }, todo)
    else ({ r.setState id .skipped with skipped := r.skipped ++ [id] }, id :: todo)

/-- Release the successors of the nodes on a work list, the latest put on it
first. The fuel is more than the count of nodes in scope. -/
def cascade (successors : String → List String) : Nat → List String → Readiness → Readiness
  | 0, _, r => r
  | _, [], r => r
  | fuel + 1, id :: todo, r =>
    let (r, todo) := (successors id).eraseDups.foldl release (r, todo)
    cascade successors fuel todo r

/-- A node settles in the given state. -/
def settle (successors : String → List String) (r : Readiness) (id : String) (s : NodeState) :
    Readiness :=
  cascade successors (r.state.length + 2) [id] (r.setState id s)

/-- Hand out the nodes that are ready. -/
def start (r : Readiness) : List String × Readiness :=
  (r.ready, r.ready.foldl (fun r id => r.setState id .started) { r with ready := [] })

/-- Whether a node of the run has not settled. -/
def isOpen (r : Readiness) (id : String) : Bool :=
  match r.state.get? id with
  | some s => !s.isTerminal
  | none => false

end Readiness

end FlowEngine
