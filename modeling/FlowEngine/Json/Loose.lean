import FlowEngine.Json.Printer
import FlowEngine.Text.Basic

/-!
# Loose readings of JSON values

Conditions ask whether a value counts as true, compare numbers by value
whatever their kind, and compare a number with text that reads as one.
-/

namespace FlowEngine

namespace Json

/-- Whether a value counts as true: neither null, zero, an empty text or
container, nor one of the texts `false` and `0`. -/
def truthy : Json → Bool
  | .null => false
  | .bool b => b
  | .number n => !n.toBinary64.same (.zero false)
  | .string s => !(s == "" || s == "false" || s == "0")
  | .array items => !items.isEmpty
  | .object members => !members.isEmpty

/-- The text of a value within a larger text: null is empty and a string stands
for itself. -/
def plainText : Json → String
  | .null => ""
  | .string s => s
  | j => j.text

/-- Equality that compares two numbers by value. -/
def looselyEqual : Json → Json → Bool
  | .number m, .number n => m.toBinary64.same n.toBinary64
  | a, b => a.same b

/-- The number a text reads as, once trimmed. -/
def readNumeral? (s : String) : Option Binary64 := readBinary64? (Text.trim s.toList)

/-- The order of two numbers, two texts, or a number and a text that reads as
one. Nothing else is ordered. -/
def compare? : Json → Json → Option Ordering
  | .number m, .number n => m.toBinary64.compare? n.toBinary64
  | .string s, .string t => some (Text.order s.toList t.toList)
  | .number m, .string t => (readNumeral? t).bind m.toBinary64.compare?
  | .string s, .number n => (readNumeral? s).bind (·.compare? n.toBinary64)
  | _, _ => none

end Json

end FlowEngine
