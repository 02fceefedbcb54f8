import FlowEngine.Json.Loose
import FlowEngine.Text.Case

/-!
# Filters

A filter turns one JSON value into another. `Filter.apply` fails for a name that
no filter has and for text that should read as a number and does not.
-/

namespace FlowEngine

inductive FilterError where
  | unknown (name : String)
  | notAnInteger (text : String)
  | notANumber (text : String)
deriving DecidableEq, Repr

def FilterError.message : FilterError → String
  | .unknown name => "unknown filter '" ++ name ++ "'"
  | .notAnInteger text => "cannot convert '" ++ text ++ "' to int"
  | .notANumber text => "cannot convert '" ++ text ++ "' to float"

namespace Filter

inductive Kind where
  | default | length | upper | lower | trim | first | last | join | keys | json | string
  | int | float | bool
deriving DecidableEq, Repr

def Kind.ofName? (name : String) : Option Kind :=
  match name with
  | "default" => some .default
  | "length" | "len" | "count" => some .length
  | "upper" => some .upper
  | "lower" => some .lower
  | "trim" => some .trim
  | "first" => some .first
  | "last" => some .last
  | "join" => some .join
  | "keys" => some .keys
  | "json" => some .json
  | "string" => some .string
  | "int" => some .int
  | "float" => some .float
  | "bool" => some .bool
  | _ => none

/-- Null and the empty text are what `default` replaces. -/
def isBlank : Json → Bool
  | .null => true
  | .string s => s == ""
  | _ => false

/-- The count of characters, items or members; 1 for any other value but null. -/
def length : Json → Nat
  | .null => 0
  | .string s => s.toList.length
  | .array items => items.length
  | .object members => members.length
  | _ => 1

def first : Json → Json
  | .array items => items.head?.getD .null
  | .string s => .ofOption (fun c => .string (String.singleton c)) s.toList.head?
  | _ => .null

def last : Json → Json
  | .array items => items.getLast?.getD .null
  | .string s => .ofOption (fun c => .string (String.singleton c)) s.toList.getLast?
  | _ => .null

def join (separator : String) : Json → String
  | .array items => separator.intercalate (items.map Json.plainText)
  | j => j.plainText

def keys : Json → List String
  | .object members => Entries.keys members
  | _ => []

/-- An integer: text and floating-point numbers lose their fraction. -/
def toInt : Json → Except FilterError Json
  | .number n => .ok (.int (n.toInt64?.getD n.toBinary64.toInt64))
  | .string s =>
    match Json.readNumeral? s with
    | some x => .ok (.int x.toInt64)
    | none => .error (.notAnInteger s)
  | .bool b => .ok (.int (if b then 1 else 0))
  | _ => .ok .null

/-- A floating-point number. -/
def toFloat : Json → Except FilterError Json
  | .number n => .ok (.ofBinary64 n.toBinary64)
  | .string s =>
    match Json.readNumeral? s with
    | some x => .ok (.ofBinary64 x)
    | none => .error (.notANumber s)
  | _ => .ok .null

def onText (f : List Char → List Char) (j : Json) : Json :=
  .string (String.ofList (f j.plainText.toList))

/-- Apply a filter whose name is known. -/
def run (k : Kind) (input : Json) (args : List Json) : Except FilterError Json :=
  match k with
  | .default => .ok (if isBlank input then args.head?.getD .null else input)
  | .length => .ok (.int (length input))
  | .upper => .ok (onText Text.upper input)
  | .lower => .ok (onText Text.lower input)
  | .trim => .ok (onText Text.trim input)
  | .first => .ok (first input)
  | .last => .ok (last input)
  | .join => .ok (.string (join ((args.head?.map Json.plainText).getD ",") input))
  | .keys => .ok (.strings (keys input))
  | .json => .ok (.string input.text)
  | .string => .ok (.string input.plainText)
  | .int => toInt input
  | .float => toFloat input
  | .bool => .ok (.bool input.truthy)

/-- Apply the filter of the given name. -/
def apply (name : String) (input : Json) (args : List Json) : Except FilterError Json :=
  match Kind.ofName? name with
  | some k => run k input args
  | none => .error (.unknown name)

end Filter

end FlowEngine
