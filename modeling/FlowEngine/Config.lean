import FlowEngine.Number.Decimal
import FlowEngine.Placeholder.Environment

/-!
# Engine configuration

What holds for every workflow unless its settings say otherwise, read from the
environment of the process.
-/

namespace FlowEngine

structure Config where
  /-- How many nodes of a run may run at once. -/
  workers : Nat
  /-- The delay before the first retry; each further retry doubles it. -/
  retryBackoffMs : Nat
  /-- Whether runs see the environment of the process. -/
  inheritEnv : Bool
  /-- The file that holds the document to run. -/
  document : Option String
  /-- The input of the run, as JSON text. -/
  input : Option String
deriving DecidableEq, Repr

namespace Config

/-- The longest delay before a retry. -/
def maxBackoffMs : Nat := 10000

/-- The configuration that looks at no environment. -/
def standalone : Config := ⟨8, 200, false, none, none⟩

def withWorkers (c : Config) (n : Nat) : Config := { c with workers := max 1 n }

def withRetryBackoffMs (c : Config) (ms : Nat) : Config := { c with retryBackoffMs := ms }

/-- Whether a text says no, in any case. -/
def isRefusal (s : String) : Bool :=
  ["0", "false", "no"].contains (String.ofList (s.toList.map Char.toLower))

/-- The variables that the configuration is read from. -/
def variableNames : List String :=
  ["NODEFLOW_WORKERS", "NODEFLOW_RETRY_BACKOFF_MS", "NODEFLOW_INHERIT_ENV", "NODEFLOW_DOCUMENT",
    "NODEFLOW_INPUT"]

def ofEnvironment (env : Environment) : Config :=
  let number (key : String) := (env.get? key).bind fun s => readNat64? s.toList
  { workers := ((number "NODEFLOW_WORKERS").filter (0 < ·)).getD 8
    retryBackoffMs := (number "NODEFLOW_RETRY_BACKOFF_MS").getD 200
    inheritEnv := !(env.get? "NODEFLOW_INHERIT_ENV").any isRefusal
    document := env.get? "NODEFLOW_DOCUMENT"
    input := env.get? "NODEFLOW_INPUT" }

end Config

end FlowEngine
