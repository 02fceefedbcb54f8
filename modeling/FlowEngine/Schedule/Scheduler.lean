/-!
# Schedulers

A scheduler keeps jobs, fires them and gives each an id by which it can be removed
again. Which ids it gives out is left to the scheduler.
-/

namespace FlowEngine

/-- What a job fires. -/
structure Job where
  workflow : String
  timer : String
deriving DecidableEq, Repr

structure Scheduler where
  State : Type
  Id : Type
  empty : State
  add : State → Job → Id × State
  remove : State → Id → State
  shutdown : State → State

namespace Scheduler

/-- The least number above those of some jobs. -/
def nextNumber (jobs : List (Nat × Job)) : Nat := jobs.foldr (fun job n => max (job.1 + 1) n) 0

/-- Each job gets a number above those of the others. -/
def numbered : Scheduler where
  State := List (Nat × Job)
  Id := Nat
  empty := []
  add := fun jobs job => (nextNumber jobs, (nextNumber jobs, job) :: jobs)
  remove := fun jobs id => jobs.filter (·.1 != id)
  shutdown := fun _ => []

end Scheduler

end FlowEngine
