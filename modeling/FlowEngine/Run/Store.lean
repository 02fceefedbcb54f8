import FlowEngine.Json.Value

/-!
# The store

Values under keys, shared by every run of an engine.
-/

namespace FlowEngine

structure Store where
  entries : Entries Json

/-- Why a stored value could not be incremented. -/
inductive IncrementError where
  | notAnInteger (key : String)
  | notANumber (key : String)
  | overflow (key : String) (amount : Int)
deriving DecidableEq, Repr

def IncrementError.message : IncrementError → String
  | .notAnInteger key => "value at '" ++ key ++ "' is not an integer"
  | .notANumber key => "value at '" ++ key ++ "' is not a number"
  | .overflow key n => "increment of '" ++ key ++ "' by " ++ toString n ++ " overflows"

namespace Store

def empty : Store := ⟨[]⟩

def get? (s : Store) (key : String) : Option Json := Entries.get? s.entries key

def size (s : Store) : Nat := s.entries.length

/-- The store with `key` set, and the value it had. -/
def set (s : Store) (key : String) (value : Json) : Option Json × Store :=
  let (old, entries) := Entries.put s.entries key value
  (old, ⟨entries⟩)

/-- The store without `key`, and the value it had. -/
def delete (s : Store) (key : String) : Option Json × Store :=
  (s.get? key, ⟨s.entries.filter fun e => e.1 != key⟩)

/-- The integer to count on from: 0 for a key that is missing or null. -/
def counter (s : Store) (key : String) : Except IncrementError Int :=
  match s.get? key with
  | none => .ok 0
  | some .null => .ok 0
  | some (.number n) =>
    match n.toInt64? with
    | some i => .ok i
    | none => .error (.notAnInteger key)
  | some _ => .error (.notANumber key)

/-- Add to the integer under `key`, within 64 bits. A failure changes nothing. -/
def increment (s : Store) (key : String) (n : Int) : Except IncrementError (Int × Store) := do
  let next := (← s.counter key) + n
  if isInt64 next then .ok (next, (s.set key (.int next)).2)
  else .error (.overflow key n)

end Store

end FlowEngine
