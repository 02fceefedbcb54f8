import FlowEngine.Placeholder.Resolver
import FlowEngine.Text.Basic

/-!
# Placeholders by their bytes

The placeholders of a text as they are found: by a scan of its bytes, which knows
nothing of characters. The offsets it gives cut the text into slices, and a slice
that is out of range or cuts a character would end the program.
-/

namespace FlowEngine

open Template (Span)

namespace Scan

/-- The offset past the closing braces of a placeholder, and the bytes from there on.
`j` is the offset of the bytes to be read and `quote` the quotation mark that is open,
if one is. A backslash in quotes takes the byte after it along. -/
def closing? : Option UInt8 → Nat → List UInt8 → Option (Nat × List UInt8)
  | _, _, [] => none
  | some q, j, b :: bs =>
    if b = q then closing? none (j + 1) bs
    else if b = '\\'.toUInt8 then
      match bs with
      | [] => none
      | _ :: bs => closing? (some q) (j + 2) bs
    else closing? (some q) (j + 1) bs
  | none, j, b :: bs =>
    if b = '"'.toUInt8 ∨ b = '\''.toUInt8 then closing? (some b) (j + 1) bs
    else if b = '}'.toUInt8 ∧ bs.head? = some '}'.toUInt8 then some (j + 2, bs.tail)
    else closing? none (j + 1) bs

/-- The placeholders among the bytes from an offset on. The fuel is at least their number. -/
def spansFrom : Nat → Nat → List UInt8 → List Span
  | fuel + 1, i, b :: c :: bs =>
    if b = '{'.toUInt8 ∧ c = '{'.toUInt8 then
      match closing? none (i + 2) bs with
      | some (stop, rest) => ⟨i, stop⟩ :: spansFrom fuel stop rest
      | none => []
    else spansFrom fuel (i + 1) (c :: bs)
  | _, _, _ => []

def spans (bs : List UInt8) : List Span := spansFrom bs.length 0 bs

end Scan

namespace Resolver

/-- The text that slices make: those between the spans as they are, those within their
braces resolved. -/
def spliceSpans (r : Resolver) (cs : List Char) (last : Nat) :
    List Span → Option (Except ResolveError (List Char))
  | [] => (Text.cut? cs last).map fun (_, after) => .ok after
  | s :: ss => do
    let before ← Text.slice? cs last s.start
    let inner ← Text.slice? cs (s.start + 2) (s.stop - 2)
    match r.placeholder inner with
    | .error e => some (.error e)
    | .ok v => do
      let rest ← spliceSpans r cs s.stop ss
      some (rest.map fun after => before ++ v.plainText.toList ++ after)

/-- Whether only blanks stand around a span. -/
def standsAlone? (cs : List Char) (s : Span) : Option Bool := do
  let (before, _) ← Text.cut? cs s.start
  if before.all Text.isBlank then
    let (_, after) ← Text.cut? cs s.stop
    some (after.all Text.isBlank)
  else some false

/-- What a text resolves to by its slices, if none of them is out of range or cuts a
character. -/
def resolveSlices (r : Resolver) (text : String) : Option (Except ResolveError Json) :=
  let cs := text.toList
  let spliced (ss : List Span) : Option (Except ResolveError Json) :=
    (r.spliceSpans cs 0 ss).map fun result => result.map fun cs => .string (String.ofList cs)
  match Scan.spans (Text.bytes cs) with
  | [] => some (.ok (.string text))
  | [s] => do
    if ← standsAlone? cs s then (Text.slice? cs (s.start + 2) (s.stop - 2)).map r.placeholder
    else spliced [s]
  | ss => spliced ss

end Resolver

end FlowEngine
