import FlowEngine.Document.Value
import FlowEngine.Document.Word

/-!
# Writing document values

A value is written on one line, in the syntax it is read in.
-/

namespace FlowEngine.Document

namespace Value

mutual

def write : Value → List Char
  | null => "null".toList
  | bool b => (if b then "true" else "false").toList
  | int i => (toString i).toList
  | float x => (NumberLayout.document.write x).toList
  | string s => quote s
  | ident s => s.toList
  | list [] => ['[', ']']
  | list (v :: vs) => '[' :: (write v ++ writeItems vs)
  | map [] => ['{', '}']
  | map ((k, v) :: es) =>
    '{' :: ' ' :: (writeKey k ++ ' ' :: '=' :: ' ' :: (write v ++ writeEntries es))

/-- The items after the first, and the closing bracket. -/
def writeItems : List Value → List Char
  | [] => [']']
  | v :: vs => ',' :: ' ' :: (write v ++ writeItems vs)

/-- The entries after the first, and the closing brace. -/
def writeEntries : List (String × Value) → List Char
  | [] => [' ', '}']
  | (k, v) :: es => ',' :: ' ' :: (writeKey k ++ ' ' :: '=' :: ' ' :: (write v ++ writeEntries es))

end

/-- The text of a value. -/
def text (v : Value) : String := String.ofList v.write

end Value

end FlowEngine.Document
