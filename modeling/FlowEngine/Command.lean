import FlowEngine.Catalog
import FlowEngine.Engine
import FlowEngine.Run.Builtin

/-!
# The command

What the command line program decides, given its environment and the contents of
the file that the environment names. A document that is refused is reported
before the input is looked at.
-/

namespace FlowEngine.Command

/-- Why the command could not start. -/
inductive Obstacle where
  | noDocument
  | unreadable (path : String)
  | malformedInput
deriving DecidableEq, Repr

def Obstacle.message : Obstacle → String
  | noDocument => "NODEFLOW_DOCUMENT must name a flow document"
  | unreadable path => "Failed to read " ++ path
  | malformedInput => "NODEFLOW_INPUT is not valid invocation JSON"

inductive Verdict where
  | obstructed (o : Obstacle)
  /-- The document was refused. -/
  | refused (e : FlowError)
  /-- The run broke down at its start. -/
  | broken (f : StartFault)
  | completed (c : Completion)

namespace Verdict

def exitCode : Verdict → Nat
  | obstructed _ => 1
  | refused _ => 2
  | broken _ => 101
  | completed c => if c.response.isSuccess then 0 else 1

/-- What is printed as the answer. -/
def response? : Verdict → Option Response
  | obstructed _ => none
  | refused e => some (.rejected "" e)
  | broken _ => none
  | completed c => some c.response

/-- What is reported as an error of the command. An empty line sets a breakdown apart. -/
def report? : Verdict → Option String
  | obstructed o => some ("Error: " ++ o.message)
  | broken f => some ("\nbreakdown: " ++ f.message)
  | _ => none

end Verdict

/-- The input of the run; it is empty when there is none. -/
def invocation? (config : Config) : Option Invocation :=
  match config.input with
  | none => some .empty
  | some text => Invocation.ofText? text

/-- Run a document under the environment of the process. -/
def runDocument (env : Environment) (cal : Calendar) (text : String) (host : Host) : Verdict :=
  let config := Config.ofEnvironment env
  match CompiledWorkflow.ofDocument cal text with
  | .error e => .refused e
  | .ok flow =>
    match invocation? config with
    | none => .obstructed .malformedInput
    | some input =>
      let engine : Engine := ⟨Builtin.registry, config, env⟩
      match engine.execute flow input host .empty with
      | .error f => .broken f
      | .ok c => .completed c

/-- Run the command. `contents?` is what the file that the environment names holds,
if it can be read. -/
def run (env : Environment) (cal : Calendar) (contents? : Option String) (host : Host) : Verdict :=
  match (Config.ofEnvironment env).document, contents? with
  | none, _ => .obstructed .noDocument
  | some path, none => .obstructed (.unreadable path)
  | some _, some text => runDocument env cal text host

end FlowEngine.Command
