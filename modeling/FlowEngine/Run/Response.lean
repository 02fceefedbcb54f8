import FlowEngine.Error
import FlowEngine.Run.NodeResult

/-!
# Responses

What the caller of a run gets back: the results in the order in which they were recorded, the
nodes that were skipped or cancelled, and the failure if there is one.
-/

namespace FlowEngine

structure Response where
  workflow : String
  results : Results
  failure : Option FlowError
  skipped : List String
  cancelled : List String

namespace Response

def isSuccess (r : Response) : Bool := r.failure.isNone

def statusText (r : Response) : String := if r.isSuccess then "success" else "error"

/-- The response to a run that was refused before any node ran. -/
def rejected (workflow : String) (e : FlowError) : Response :=
  ⟨workflow, ⟨[]⟩, some e, [], []⟩

/-- The summary of an error. -/
def errorJson (e : FlowError) : Json :=
  .object ([("kind", .string e.kindName), ("message", .string e.message)]
    ++ NodeResult.member? "node" (e.node?.map .string))

/-- A list that is left out when it is empty. -/
def listMember? (key : String) (ids : List String) : List (String × Json) :=
  if ids.isEmpty then [] else [(key, .strings ids)]

/-- The identity of a run and the times of its start and end. -/
structure Stamp where
  runId : String
  started : String
  finished : String

def resultsJson (r : Response) : Json :=
  .object [("results", .object (r.results.entries.map fun (id, n) => (id, n.toJson)))]

def toJson (r : Response) (stamp : Stamp) : Json :=
  .object ([("status", .string r.statusText), ("result", r.resultsJson)]
    ++ NodeResult.member? "error" (r.failure.map errorJson)
    ++ listMember? "skipped" r.skipped ++ listMember? "cancelled" r.cancelled
    ++ [("run_id", .string stamp.runId), ("workflow", .string r.workflow),
      ("started_at", .string stamp.started), ("finished_at", .string stamp.finished)])

end Response

end FlowEngine
