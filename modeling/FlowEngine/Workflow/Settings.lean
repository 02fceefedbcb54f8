import FlowEngine.Document.Value

/-!
# Workflow settings

The knobs that a workflow sets for its runs. An entry of the wrong type counts
as absent; all entries are kept as they were written.
-/

namespace FlowEngine

open Document (Value)

structure Settings where
  debug : Bool
  maxRetries : Nat
  timeoutSeconds : Option Nat
  logLevel : Option String
  failOnUnresolved : Bool
  maxConcurrency : Option Nat
  retryBackoffMs : Option Nat
  /-- All entries as they were written. -/
  raw : Entries Value
deriving DecidableEq

namespace Settings

/-- The largest count of retries. -/
def retryLimit : Nat := nat32End - 1

/-- The keys that have a meaning. -/
def knownKeys : List String :=
  ["debug", "max_retries", "timeout_seconds", "log_level", "fail_on_unresolved",
    "max_concurrency", "retry_backoff_ms"]

def ofEntries (raw : Entries Value) : Settings :=
  let number (key : String) := (raw.get? key).bind Value.asNat?
  let flag (key : String) := ((raw.get? key).bind Value.asBool?).getD false
  { debug := flag "debug"
    maxRetries := min ((number "max_retries").getD 0) retryLimit
    timeoutSeconds := (number "timeout_seconds").filter (0 < ·)
    logLevel := (raw.get? "log_level").bind Value.asText?
    failOnUnresolved := flag "fail_on_unresolved"
    maxConcurrency := (number "max_concurrency").map (max 1)
    retryBackoffMs := number "retry_backoff_ms"
    raw }

/-- What holds when nothing is set. -/
def default : Settings := ofEntries []

/-- The entries without a meaning of their own. -/
def extra (s : Settings) : Entries Value := s.raw.filter fun kv => !knownKeys.contains kv.1

end Settings

end FlowEngine
