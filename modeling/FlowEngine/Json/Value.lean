import FlowEngine.Entries
import FlowEngine.Json.Number

/-!
# JSON values

Objects keep their members in order. Two values are `same` when they differ at
most in the order of members; integers and floating-point numbers are never the
same.
-/

namespace FlowEngine

inductive Json where
  | null
  | bool (b : Bool)
  | number (n : Json.Number)
  | string (s : String)
  | array (items : List Json)
  | object (members : List (String × Json))
deriving Inhabited

namespace Json

def int (i : Int) : Json := .number (.int i)

/-- A floating-point number as JSON can hold it: null if it is not finite. -/
def ofBinary64 (x : Binary64) : Json :=
  match Number.ofBinary64? x with
  | some n => .number n
  | none => .null

def ofOption (f : α → Json) : Option α → Json
  | none => .null
  | some a => f a

def strings (ss : List String) : Json := .array (ss.map .string)

/-! ## Views -/

def asBool? : Json → Option Bool
  | .bool b => some b
  | _ => none

def asString? : Json → Option String
  | .string s => some s
  | _ => none

def asNumber? : Json → Option Number
  | .number n => some n
  | _ => none

def asInt64? (j : Json) : Option Int := j.asNumber?.bind Number.toInt64?

def asArray? : Json → Option (List Json)
  | .array items => some items
  | _ => none

def asObject? : Json → Option (Entries Json)
  | .object members => some members
  | _ => none

/-- The member of an object; nothing for any other value. -/
def get? : Json → String → Option Json
  | .object members, key => Entries.get? members key
  | _, _ => none

/-! ## Paths -/

/-- One step into a value: a member of an object, or an item of an array by its
index. -/
def step? : Json → String → Option Json
  | .object members, segment => Entries.get? members segment
  | .array items, segment => (readNat64? segment.toList).bind fun i => items[i]?
  | _, _ => none

/-- Follow a path of members and indices. -/
def walk? : Json → List String → Option Json
  | j, [] => some j
  | j, segment :: path => (j.step? segment).bind fun k => k.walk? path

@[simp] theorem walk?_nil (j : Json) : j.walk? [] = some j := by cases j <;> rfl

theorem walk?_append (j : Json) (p q : List String) :
    j.walk? (p ++ q) = (j.walk? p).bind fun k => k.walk? q := by
  induction p generalizing j with
  | nil => simp
  | cons s p ih => cases h : j.step? s <;> simp [walk?, h, ih]

/-! ## Equality -/

mutual

def same : Json → Json → Bool
  | .null, .null => true
  | .bool a, .bool b => a == b
  | .number m, .number n => m.same n
  | .string a, .string b => a == b
  | .array xs, .array ys => sameItems xs ys
  | .object ms, .object ns => ms.length == ns.length && sameMembers ms ns
  | _, _ => false

def sameItems : List Json → List Json → Bool
  | [], [] => true
  | x :: xs, y :: ys => same x y && sameItems xs ys
  | _, _ => false

/-- Whether each member of the first object is found in the second. -/
def sameMembers : List (String × Json) → List (String × Json) → Bool
  | [], _ => true
  | (k, v) :: ms, ns =>
    (match Entries.get? ns k with
      | some w => same v w
      | none => false) && sameMembers ms ns

end

end Json

end FlowEngine
