import FlowEngine.Text.Basic

/-!
# Templates

A template is text with placeholders `{{…}}` in it. `pieces` takes a text apart
into characters that stand for themselves and placeholders; a `{{` without its
closing braces is text. Quotes inside a placeholder may hold `}}`.
-/

namespace FlowEngine

inductive Piece where
  | char (c : Char)
  | placeholder (inner : List Char)
deriving DecidableEq, Repr

namespace Piece

/-- The piece as it stands in the text. -/
def source : Piece → List Char
  | char c => [c]
  | placeholder inner => '{' :: '{' :: (inner ++ ['}', '}'])

def isPlaceholder : Piece → Bool
  | char _ => false
  | placeholder _ => true

def isBlank : Piece → Bool
  | char c => Text.isBlank c
  | placeholder _ => false

end Piece

namespace Template

/-- The inside of a placeholder up to its closing braces, and the text after
them. `quote` is the quotation mark that is open, if one is. -/
def closing? : Option Char → List Char → Option (List Char × List Char)
  | _, [] => none
  | some q, c :: cs =>
    if c = q then (closing? none cs).map fun (s, r) => (c :: s, r)
    else if c = '\\' then
      match cs with
      | [] => none
      | d :: ds => (closing? (some q) ds).map fun (s, r) => (c :: d :: s, r)
    else (closing? (some q) cs).map fun (s, r) => (c :: s, r)
  | none, c :: cs =>
    if c = '"' ∨ c = '\'' then (closing? (some c) cs).map fun (s, r) => (c :: s, r)
    else if c = '}' ∧ cs.head? = some '}' then some ([], cs.tail)
    else (closing? none cs).map fun (s, r) => (c :: s, r)

/-- Take a text apart. The fuel is at least its length. -/
def split : Nat → List Char → List Piece
  | 0, cs => cs.map .char
  | _, [] => []
  | fuel + 1, '{' :: '{' :: r =>
    match closing? none r with
    | some (inner, rest) => .placeholder inner :: split fuel rest
    | none => ('{' :: '{' :: r).map .char
  | fuel + 1, c :: r => .char c :: split fuel r

def pieces (cs : List Char) : List Piece := split cs.length cs

/-- The bytes that a text takes in UTF-8. -/
def byteLength : List Char → Nat
  | [] => 0
  | c :: cs => c.utf8Size + byteLength cs

/-- The byte range of a placeholder: the first byte of it and the first past it. -/
structure Span where
  start : Nat
  stop : Nat
deriving DecidableEq, Repr

/-- The ranges of the placeholders among pieces that start at an offset. -/
def spansFrom (offset : Nat) : List Piece → List Span
  | [] => []
  | p :: ps =>
    let stop := offset + byteLength p.source
    if p.isPlaceholder then ⟨offset, stop⟩ :: spansFrom stop ps else spansFrom stop ps

/-- The ranges of all placeholders of a text. -/
def spans (cs : List Char) : List Span := spansFrom 0 (pieces cs)

end Template

end FlowEngine
