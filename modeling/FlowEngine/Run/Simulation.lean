import FlowEngine.Run.State

/-!
# Runs on a simulated clock

One choice of the events of a run. Time stands still while a node can go on;
then the nodes that finished are taken into account, in that order; and when that brings
nothing new, time passes until the next attempt or retry is due or the time
limit expires, whichever is first. Nodes get slots in the order of the line.
-/

namespace FlowEngine

/-- More than the count of rounds that a run can take. Each node gets a slot and is
handled once; each of its attempts, and each wait for a retry, is waited for and
ends. -/
def Plan.rounds (p : Plan) : Nat :=
  p.nodes.foldl (fun sum n => sum + 4 * (p.maxRetries n + 1) + 2) 4

namespace RunState

/-- Whether a node with a slot can go on now. Cancelling a run cuts the wait for a
retry short. -/
def isDue (s : RunState) (phase : Phase) : Bool :=
  decide (phase.due ≤ s.clock) ||
    match phase with
    | .attempting .. => false
    | .backingOff .. => s.isCancelled
    | .broken => true

/-- When the time limit expires, if it has not yet. -/
def deadline? (p : Plan) (s : RunState) : Option Nat :=
  if s.timedOut then none else p.settings.timeoutSeconds.map (1000 * ·)

/-- When the next of the nodes with a slot is due. -/
def nextDue? (s : RunState) : Option Nat := (s.active.map fun a => a.2.due).min?

/-- The events that time brings; none if nothing is waited for. -/
def timely (p : Plan) (s : RunState) : List Event :=
  match s.nextDue?, s.deadline? p with
  | none, _ => []
  | some due, none => [.pass (due - s.clock)]
  | some due, some limit =>
    if limit ≤ due then [.pass (limit - s.clock), .expire] else [.pass (due - s.clock)]

/-- The events that come when no node can go on. -/
def unblocked (p : Plan) (s : RunState) : List Event :=
  if s.finished.isEmpty then s.timely p else s.finished.flatMap fun c => [.handle c.1, .queue]

/-- The events that come next, given the count of slots; none at the end. -/
def next (p : Plan) (slots : Nat) (s : RunState) : List Event :=
  match s.active.find? fun a => s.isDue a.2 with
  | some (id, _) => [.wake id]
  | none =>
    match s.line with
    | id :: _ =>
      if s.isCancelled || s.active.length < slots then [.grant id] else s.unblocked p
    | [] => s.unblocked p

/-- Let a run go on for a number of rounds. -/
def simulate (p : Plan) (slots : Nat) : Nat → RunState → RunState
  | 0, s => s
  | fuel + 1, s =>
    match s.next p slots with
    | [] => s
    | events => simulate p slots fuel (s.run p events)

end RunState

end FlowEngine
