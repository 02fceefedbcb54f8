import FlowEngine.Document.Value

/-!
# Environment variables in text

`${NAME}` in a text stands for the value of an environment variable, or for
nothing when it is unset. A value that holds `{{` is put in as a quoted literal,
so that it reads back as itself when placeholders are resolved.
-/

namespace FlowEngine

abbrev Environment := Entries String

namespace Environment

inductive Part where
  | char (c : Char)
  | variable (name : List Char)
deriving DecidableEq, Repr

def isNameStart (c : Char) : Bool := c.isAlpha || c == '_'

def isNameChar (c : Char) : Bool := c.isAlphanum || c == '_'

/-- The name of a variable up to the closing brace, and the text after it. -/
def readName? : List Char → Option (List Char × List Char)
  | [] => none
  | c :: cs =>
    if isNameStart c then
      match cs.dropWhile isNameChar with
      | '}' :: r => some (c :: cs.takeWhile isNameChar, r)
      | _ => none
    else none

/-- Take a text apart into characters and variables. The fuel is at least its
length. -/
def split : Nat → List Char → List Part
  | 0, cs => cs.map .char
  | _, [] => []
  | fuel + 1, '$' :: '{' :: r =>
    match readName? r with
    | some (name, rest) => .variable name :: split fuel rest
    | none => .char '$' :: split fuel ('{' :: r)
  | fuel + 1, c :: r => .char c :: split fuel r

def parts (cs : List Char) : List Part := split cs.length cs

/-- Whether two opening braces stand together in a text. -/
def opensPlaceholder : List Char → Bool
  | '{' :: '{' :: _ => true
  | _ :: cs => opensPlaceholder cs
  | [] => false

def escape (c : Char) : List Char := if c = '\\' ∨ c = '\'' then ['\\', c] else [c]

/-- A text that resolves to the given value. -/
def literal (value : List Char) : List Char :=
  if opensPlaceholder value then
    ['{', '{', '\''] ++ value.flatMap escape ++ ['\'', '}', '}']
  else value

def replacement (env : Environment) : Part → List Char
  | .char c => [c]
  | .variable name =>
    match env.get? (String.ofList name) with
    | some value => literal value.toList
    | none => []

def unsetName? (env : Environment) : Part → Option String
  | .char _ => none
  | .variable name =>
    if env.contains (String.ofList name) then none else some (String.ofList name)

/-- The text with its variables replaced, and the names of those that are
unset. -/
def substitute (env : Environment) (cs : List Char) : List Char × List String :=
  ((parts cs).flatMap env.replacement, (parts cs).filterMap env.unsetName?)

open Document (Value)

mutual

/-- A value with the variables in its strings replaced, and the names of those
that are unset. Identifiers and keys are left alone. -/
def substituteValue (env : Environment) : Value → Value × List String
  | .string s =>
    let (text, missing) := env.substitute s.toList
    (.string (String.ofList text), missing)
  | .list items =>
    let (items, missing) := substituteItems env items
    (.list items, missing)
  | .map entries =>
    let (entries, missing) := substituteEntries env entries
    (.map entries, missing)
  | v => (v, [])

def substituteItems (env : Environment) : List Value → List Value × List String
  | [] => ([], [])
  | v :: vs =>
    let (v, missing) := substituteValue env v
    let (vs, more) := substituteItems env vs
    (v :: vs, missing ++ more)

def substituteEntries (env : Environment) :
    List (String × Value) → List (String × Value) × List String
  | [] => ([], [])
  | (k, v) :: es =>
    let (v, missing) := substituteValue env v
    let (es, more) := substituteEntries env es
    ((k, v) :: es, missing ++ more)

end

end Environment

end FlowEngine
