import FlowEngine.Catalog
import FlowEngine.Engine
import FlowEngine.Schedule.Scheduler

/-!
# Timers

Which timers of which workflows are registered, and what a firing does. A
registered timer has a job with the scheduler, whose id is kept under a key made of
the names of the workflow and the timer. A firing looks the workflow up anew and
runs it from the handler of the timer, with the particulars of the firing as its
request.
-/

namespace FlowEngine

namespace Job

/-- The text that all keys of a workflow start with. -/
def keyStart (workflow : String) : List Char := workflow.toList ++ [':']

def key (job : Job) : String := String.ofList (keyStart job.workflow ++ job.timer.toList)

/-- Whether a key is one of a workflow, going by how it starts. -/
def isKeyOf (workflow key : String) : Bool := (keyStart workflow).isPrefixOf key.toList

end Job

/-- The timers that are registered with a scheduler. -/
structure TimerTable (S : Scheduler) where
  /-- The ids of the jobs by their keys. -/
  ids : Entries S.Id
  scheduler : S.State
  /-- Whether the timers have ever been started. -/
  started : Bool

namespace TimerTable

variable {S : Scheduler}

def empty : TimerTable S := ⟨[], S.empty, false⟩

/-- The keys in order. -/
def registered (t : TimerTable S) : List String := Text.sorted t.ids.keys

/-- Remove the job under a key. -/
def drop (t : TimerTable S) (key : String) : TimerTable S :=
  match t.ids.take key with
  | (some id, ids) => { t with ids, scheduler := S.remove t.scheduler id }
  | (none, _) => t

/-- Remove the timers of a workflow, and how many there were. -/
def unregister (t : TimerTable S) (workflow : String) : Nat × TimerTable S :=
  let keys := t.ids.keys.filter (Job.isKeyOf workflow)
  (keys.length, keys.foldl drop t)

def add (t : TimerTable S) (job : Job) : TimerTable S :=
  let (id, scheduler) := S.add t.scheduler job
  { t with ids := t.ids.insert job.key id, scheduler }

/-- Replace the timers of a workflow by those it has now, and how many it has. -/
def register (t : TimerTable S) (flow : CompiledWorkflow) : Nat × TimerTable S :=
  (flow.timerIds.length, (flow.timerIds.map (Job.mk flow.name)).foldl add (t.unregister flow.name).2)

/-- Register the timers of all workflows. -/
def registerAll (t : TimerTable S) (c : Catalog) : TimerTable S :=
  c.all.foldl (fun t flow => (t.register flow).2) t

/-! ## Starting and stopping -/

/-- Timers start once, even if they are stopped in between. -/
structure AlreadyStarted where
deriving DecidableEq, Repr

/-- Register the timers of all workflows, which is done in any case, and start. -/
def start (t : TimerTable S) (c : Catalog) : Except AlreadyStarted Unit × TimerTable S :=
  let t := t.registerAll c
  if t.started then (.error {}, t) else (.ok (), { t with started := true })

/-- Remove all timers. -/
def stop (t : TimerTable S) : TimerTable S := { t with ids := [], scheduler := S.shutdown t.scheduler }

end TimerTable

abbrev Timers := TimerTable .numbered

namespace Timers

/-! ## Firing -/

/-- There is no timer that could fire. -/
structure NoTimer where
  workflow : String
  timer : String
deriving DecidableEq, Repr

def NoTimer.message (e : NoTimer) : String :=
  "no timer '" ++ e.timer ++ "' in workflow '" ++ e.workflow ++ "'"

/-- The request of a run that a timer started. -/
def trigger (n : Node) (time : String) : Json :=
  .object [("trigger", .object
    [("timer", .string n.id), ("schedule", .ofOption .string n.schedule?),
      ("timezone", .string n.timezone), ("fired_at", .string time)])]

/-- The workflow, the timer and its handler. -/
def target? (c : Catalog) (workflow timer : String) :
    Option (CompiledWorkflow × Node × String) := do
  let flow ← c.get? workflow
  let n ← flow.workflow.node? timer
  if n.isTimer then
    let handler ← n.handler
    some (flow, n, handler)
  else none

/-- Fire a timer now. If there is one, its run may still be unable to start. -/
def fire (c : Catalog) (e : Engine) (workflow timer : String) (host : Host) (store : Store) :
    Except NoTimer (Except StartFault Completion) :=
  match target? c workflow timer with
  | none => .error ⟨workflow, timer⟩
  | some (flow, n, handler) =>
    .ok (e.executeFrom flow handler { Invocation.empty with request := trigger n host.time } host store)

end Timers

end FlowEngine
