import FlowEngine.Json.Value

/-!
# Values of flow documents

A bare word is an identifier, which is kept apart from a quoted string although
both are text. Maps keep their entries in order.
-/

namespace FlowEngine.Document

inductive Value where
  | null
  | bool (b : Bool)
  | int (i : Int)
  | float (x : Binary64)
  | string (s : String)
  | ident (s : String)
  | list (items : List Value)
  | map (entries : List (String × Value))
deriving Inhabited

namespace Value

/-! ## Views -/

/-- The text of a string or an identifier. -/
def asText? : Value → Option String
  | string s => some s
  | ident s => some s
  | _ => none

def asBool? : Value → Option Bool
  | bool b => some b
  | _ => none

/-- An integer, or a floating-point number without a fraction, held within 64
bits. -/
def asInt? : Value → Option Int
  | int i => some i
  | float x => if x.isWhole then some x.toInt64 else none
  | _ => none

def asNat? (v : Value) : Option Nat := v.asInt?.bind Int.toNat?

def isIdent : Value → Bool
  | ident _ => true
  | _ => false

/-! ## JSON -/

mutual

/-- The JSON form, in which identifiers and strings are alike. -/
def toJson : Value → Json
  | null => .null
  | bool b => .bool b
  | int i => .int i
  | float x => .ofBinary64 x
  | string s => .string s
  | ident s => .string s
  | list items => .array (toJsonItems items)
  | map entries => .object (Entries.ofList (toJsonEntries entries))

def toJsonItems : List Value → List Json
  | [] => []
  | v :: vs => v.toJson :: toJsonItems vs

def toJsonEntries : List (String × Value) → List (String × Json)
  | [] => []
  | (k, v) :: es => (k, v.toJson) :: toJsonEntries es

end

/-! ## Equality -/

mutual

def beq : Value → Value → Bool
  | null, null => true
  | bool a, bool b => a == b
  | int i, int j => i == j
  | float x, float y => x == y
  | string s, string t => s == t
  | ident s, ident t => s == t
  | list xs, list ys => beqItems xs ys
  | map xs, map ys => beqEntries xs ys
  | _, _ => false

def beqItems : List Value → List Value → Bool
  | [], [] => true
  | x :: xs, y :: ys => beq x y && beqItems xs ys
  | _, _ => false

def beqEntries : List (String × Value) → List (String × Value) → Bool
  | [], [] => true
  | (k, x) :: xs, (l, y) :: ys => k == l && beq x y && beqEntries xs ys
  | _, _ => false

end

mutual

theorem beq_iff : ∀ a b : Value, beq a b = true ↔ a = b
  | null, b => by cases b <;> simp [beq]
  | bool _, b => by cases b <;> simp [beq]
  | int _, b => by cases b <;> simp [beq]
  | float _, b => by cases b <;> simp [beq]
  | string _, b => by cases b <;> simp [beq]
  | ident _, b => by cases b <;> simp [beq]
  | list xs, b => by cases b <;> simp [beq, beqItems_iff xs]
  | map xs, b => by cases b <;> simp [beq, beqEntries_iff xs]

theorem beqItems_iff : ∀ xs ys : List Value, beqItems xs ys = true ↔ xs = ys
  | [], ys => by cases ys <;> simp [beqItems]
  | x :: xs, ys => by cases ys <;> simp [beqItems, beq_iff x, beqItems_iff xs]

theorem beqEntries_iff : ∀ xs ys : List (String × Value), beqEntries xs ys = true ↔ xs = ys
  | [], ys => by cases ys <;> simp [beqEntries]
  | (k, x) :: xs, ys => by
    cases ys <;> simp [beqEntries, beq_iff x, beqEntries_iff xs, Prod.ext_iff]

end

instance : DecidableEq Value := fun a b => decidable_of_iff _ (beq_iff a b)

end Value

end FlowEngine.Document
