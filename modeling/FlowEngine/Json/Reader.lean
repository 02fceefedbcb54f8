import FlowEngine.Json.Value

/-!
# Reading JSON

A value may nest 127 levels of arrays and objects, an escape must name a
character, and a number must be in range. Where the content of a value does not
matter it is read `unchecked`, which lifts those three conditions. A member that
occurs twice keeps its first place and its last value.
-/

namespace FlowEngine

namespace Json

def isBlank (c : Char) : Bool := c == ' ' || c == '\t' || c == '\n' || c == '\r'

def skipBlanks (cs : List Char) : List Char := cs.dropWhile isBlank

/-! ## Strings -/

def hexValue? (c : Char) : Option Nat :=
  if '0' ≤ c ∧ c ≤ '9' then some (c.toNat - '0'.toNat)
  else if 'a' ≤ c ∧ c ≤ 'f' then some (c.toNat - 'a'.toNat + 10)
  else if 'A' ≤ c ∧ c ≤ 'F' then some (c.toNat - 'A'.toNat + 10)
  else none

/-- Four hexadecimal digits. -/
def readUnit? : List Char → Option (Nat × List Char)
  | a :: b :: c :: d :: r => do
    let a ← hexValue? a
    let b ← hexValue? b
    let c ← hexValue? c
    let d ← hexValue? d
    some (((a * 16 + b) * 16 + c) * 16 + d, r)
  | _ => none

def isHighSurrogate (u : Nat) : Bool := 0xD800 ≤ u && u < 0xDC00

def isLowSurrogate (u : Nat) : Bool := 0xDC00 ≤ u && u < 0xE000

/-- The character of an escape that follows `\u`: one unit, or a pair of
surrogates. -/
def readCodePoint? (checked : Bool) (cs : List Char) : Option (Char × List Char) := do
  let (u, r) ← readUnit? cs
  if !checked then some (Char.ofNat u, r)
  else if isLowSurrogate u then none
  else if isHighSurrogate u then
    match r with
    | '\\' :: 'u' :: r =>
      let (v, r) ← readUnit? r
      if isLowSurrogate v then
        some (Char.ofNat (0x10000 + (u - 0xD800) * 0x400 + (v - 0xDC00)), r)
      else none
    | _ => none
  else some (Char.ofNat u, r)

def readEscape? (checked : Bool) : List Char → Option (Char × List Char)
  | '"' :: r => some ('"', r)
  | '\\' :: r => some ('\\', r)
  | '/' :: r => some ('/', r)
  | 'b' :: r => some (Char.ofNat 8, r)
  | 'f' :: r => some (Char.ofNat 12, r)
  | 'n' :: r => some ('\n', r)
  | 'r' :: r => some ('\r', r)
  | 't' :: r => some ('\t', r)
  | 'u' :: r => readCodePoint? checked r
  | _ => none

/-- The rest of a string whose opening quote has been read. The fuel is at least
the length of the text. -/
def readString? (checked : Bool) : Nat → List Char → Option (List Char × List Char)
  | 0, _ => none
  | _, [] => none
  | fuel + 1, c :: cs =>
    if c = '"' then some ([], cs)
    else if c = '\\' then do
      let (e, r) ← readEscape? checked cs
      let (s, r) ← readString? checked fuel r
      some (e :: s, r)
    else if c.toNat < 32 then none
    else do
      let (s, r) ← readString? checked fuel cs
      some (c :: s, r)

/-! ## Values -/

/-- A literal name, if the text starts with it. -/
def readName? (name : List Char) (j : Json) (cs : List Char) : Option (Json × List Char) :=
  if name.isPrefixOf cs then some (j, cs.drop name.length) else none

def readNumber? (checked : Bool) (cs : List Char) : Option (Json × List Char) := do
  let (parts, r) ← Number.readParts? cs
  match Number.ofParts? parts with
  | some n => some (.number n, r)
  | none => if checked then none else some (.null, r)

mutual

/-- A value at the front of the text. The fuel is at least twice the length of
the text; `depth` levels of arrays and objects may follow. -/
def readValue? (checked : Bool) : Nat → Nat → List Char → Option (Json × List Char)
  | 0, _, _ => none
  | fuel + 1, depth, cs =>
    match skipBlanks cs with
    | 'n' :: r => readName? "null".toList .null ('n' :: r)
    | 't' :: r => readName? "true".toList (.bool true) ('t' :: r)
    | 'f' :: r => readName? "false".toList (.bool false) ('f' :: r)
    | '"' :: r => do
      let (s, r) ← readString? checked (r.length + 1) r
      some (.string (String.ofList s), r)
    | '[' :: r =>
      if checked && depth == 0 then none
      else match skipBlanks r with
        | ']' :: r => some (.array [], r)
        | r => do
          let (items, r) ← readItems? checked fuel (depth - 1) r
          some (.array items, r)
    | '{' :: r =>
      if checked && depth == 0 then none
      else match skipBlanks r with
        | '}' :: r => some (.object [], r)
        | r => do
          let (members, r) ← readMembers? checked fuel (depth - 1) r
          some (.object (Entries.ofList members), r)
    | r => readNumber? checked r

/-- One or more items and the closing bracket. -/
def readItems? (checked : Bool) : Nat → Nat → List Char → Option (List Json × List Char)
  | 0, _, _ => none
  | fuel + 1, depth, cs => do
    let (item, r) ← readValue? checked fuel depth cs
    match skipBlanks r with
    | ',' :: r => do
      let (items, r) ← readItems? checked fuel depth r
      some (item :: items, r)
    | ']' :: r => some ([item], r)
    | _ => none

/-- One or more members and the closing brace. -/
def readMembers? (checked : Bool) :
    Nat → Nat → List Char → Option (List (String × Json) × List Char)
  | 0, _, _ => none
  | fuel + 1, depth, cs =>
    match skipBlanks cs with
    | '"' :: r => do
      let (key, r) ← readString? checked (r.length + 1) r
      match skipBlanks r with
      | ':' :: r => do
        let (value, r) ← readValue? checked fuel depth r
        let member := (String.ofList key, value)
        match skipBlanks r with
        | ',' :: r => do
          let (members, r) ← readMembers? checked fuel depth r
          some (member :: members, r)
        | '}' :: r => some ([member], r)
        | _ => none
      | _ => none
    | _ => none

end

/-- The levels of nesting a value may have. -/
def maxDepth : Nat := 127

/-- A text that holds one value and nothing else but blanks. -/
def read? (s : String) : Option Json := do
  let cs := s.toList
  let (j, r) ← readValue? true (2 * cs.length + 2) maxDepth cs
  if (skipBlanks r).isEmpty then some j else none

end Json

end FlowEngine
