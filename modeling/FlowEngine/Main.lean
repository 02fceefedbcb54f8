import FlowEngine.Command
import FlowEngine.Json.Layout
import Std.Time.Format

/-!
# The program

Reads the environment and the file that it names, runs the command and prints the
response.
-/

namespace FlowEngine

/-- A variable of the environment as the system writes it. -/
def assignment? (s : String) : Option (String × String) :=
  match s.toList.span (· != '=') with
  | (name, '=' :: value) => some (String.ofList name, String.ofList value)
  | _ => none

/-- The environment of the process; at least its variables that the engine reads. -/
def processEnvironment : IO Environment := do
  let listing ← try IO.FS.readFile "/proc/self/environ" catch _ => pure ""
  let mut env : Environment := Entries.ofList ((listing.splitOn "\x00").filterMap assignment?)
  for name in Config.variableNames do
    if let some value ← IO.getEnv name then env := env.insert name value
  return env

def contents? (path : String) : IO (Option String) :=
  try some <$> IO.FS.readFile path catch _ => pure none

def timeText (zone : String) (t : Std.Time.Timestamp) : String :=
  (Std.Time.DateTime.ofTimestamp t .UTC).format "uuuu-MM-dd'T'HH:mm:ss.SSSSSSSSS" ++ zone

def hexByte (b : UInt8) : String :=
  String.ofList [Nat.digitChar (b.toNat / 16), Nat.digitChar (b.toNat % 16)]

/-- A random identity. -/
def freshRunId : IO String := do
  let bytes := (← IO.getRandomBytes 16).toList
  let bytes := bytes.mapIdx fun i b =>
    if i = 6 then (b &&& 0x0f) ||| 0x40 else if i = 8 then (b &&& 0x3f) ||| 0x80 else b
  let group (start size : Nat) := String.join (((bytes.drop start).take size).map hexByte)
  return "-".intercalate [group 0 4, group 4 2, group 6 2, group 8 2, group 10 6]

/-- The system as a run finds it. -/
def host (started : Std.Time.Timestamp) : IO Host := do
  return ⟨timeText "+00:00" started, (← IO.monoMsNow) / 1000, fun _ => "the task panicked"⟩

/-- Wait for as long as a run took by its own clock. -/
def waitOut : Command.Verdict → IO Unit
  | .completed c => IO.sleep c.elapsedMs.toUInt32
  | _ => pure ()

end FlowEngine

open FlowEngine

def main : IO UInt32 := do
  let env ← processEnvironment
  let contents ← match (Config.ofEnvironment env).document with
    | some path => contents? path
    | none => pure none
  let started ← Std.Time.Timestamp.now
  let verdict := Command.run env .standard contents (← host started)
  waitOut verdict
  let finished ← Std.Time.Timestamp.now
  if let some response := verdict.response? then
    let stamp : Response.Stamp := ⟨← freshRunId, timeText "Z" started, timeText "Z" finished⟩
    IO.println (response.toJson stamp).indentedText
  if let some report := verdict.report? then
    IO.eprintln report
  return verdict.exitCode.toUInt32
