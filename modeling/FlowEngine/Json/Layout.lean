import FlowEngine.Json.Printer

/-!
# Indented JSON text

Each item and each member has a line of its own, two blanks further in than the
line that opens the array or object. Empty ones stay on their line.
-/

namespace FlowEngine

namespace Json

/-- The start of a line at a depth. -/
def newline (depth : Nat) : List Char := '\n' :: List.replicate (2 * depth) ' '

mutual

/-- A value that opens on a line of the given depth. -/
def layOut (depth : Nat) : Json → List Char
  | .array (x :: xs) =>
    '[' :: (newline (depth + 1) ++ (layOut (depth + 1) x ++ layOutItems depth xs))
  | .object ((k, v) :: ms) =>
    '{' :: (newline (depth + 1)
      ++ (quoted k ++ ':' :: ' ' :: (layOut (depth + 1) v ++ layOutMembers depth ms)))
  | v => write v

/-- The items after the first, and the closing bracket. -/
def layOutItems (depth : Nat) : List Json → List Char
  | [] => newline depth ++ [']']
  | x :: xs => ',' :: (newline (depth + 1) ++ (layOut (depth + 1) x ++ layOutItems depth xs))

/-- The members after the first, and the closing brace. -/
def layOutMembers (depth : Nat) : List (String × Json) → List Char
  | [] => newline depth ++ ['}']
  | (k, v) :: ms =>
    ',' :: (newline (depth + 1)
      ++ (quoted k ++ ':' :: ' ' :: (layOut (depth + 1) v ++ layOutMembers depth ms)))

end

/-- The indented text of a value. -/
def indentedText (j : Json) : String := String.ofList (j.layOut 0)

end Json

end FlowEngine
