import FlowEngine.Document.Fault
import FlowEngine.Document.Value
import FlowEngine.Document.Word
import FlowEngine.Text.Basic
import FlowEngine.Workflow.Routing

/-!
# Reading flow documents

A document is a row of blocks, each a header `[name]` and its entries. Entries
are `key = value` lines; lists and maps may span lines and comments run to the
end of their line. In the block `edges` the values are routings instead:
`A = B, C` fans out, `A = [T, F]` branches and `A = { B, C }` selects.
-/

namespace FlowEngine.Document

/-- What is left of a text and the line it starts on. -/
structure Cursor where
  rest : List Char
  line : Nat

abbrev Read (α : Type) := Cursor → Except SyntaxError (α × Cursor)

namespace Cursor

/-- The cursor past characters of the same line. -/
def moveTo (c : Cursor) (rest : List Char) : Cursor := ⟨rest, c.line⟩

/-- The line reached by reading a character. -/
def lineAfter (line : Nat) (ch : Char) : Nat := if ch = '\n' then line + 1 else line

def fail (c : Cursor) (fault : SyntaxFault) : Except SyntaxError α := .error ⟨c.line, fault⟩

def isInlineBlank (ch : Char) : Bool := ch == ' ' || ch == '\t' || ch == '\r'

def skipInline (c : Cursor) : Cursor := c.moveTo (c.rest.dropWhile isInlineBlank)

def skipComment (c : Cursor) : Cursor :=
  match c.rest with
  | '#' :: _ => c.moveTo (c.rest.dropWhile (· != '\n'))
  | _ => c

/-- Past blanks, line ends and comments. -/
def skipFrom (inComment : Bool) (line : Nat) : List Char → Cursor
  | [] => ⟨[], line⟩
  | ch :: cs =>
    if ch = '\n' then skipFrom false (line + 1) cs
    else if inComment || isInlineBlank ch then skipFrom inComment line cs
    else if ch = '#' then skipFrom true line cs
    else ⟨ch :: cs, line⟩

def skipAll (c : Cursor) : Cursor := skipFrom false c.line c.rest

end Cursor

open Cursor (lineAfter)

/-- The rest of the line must be blank or a comment. -/
def endLine (c : Cursor) : Except SyntaxError Cursor :=
  let c := c.skipInline.skipComment
  match c.rest with
  | [] => .ok c
  | '\n' :: r => .ok ⟨r, c.line + 1⟩
  | ch :: _ => c.fail (.afterValue ch)

/-! ## Strings and words -/

/-- The character that a backslash and `c` stand for. -/
def escaped? (c : Char) : Option Char :=
  if c = 'n' then some '\n'
  else if c = 't' then some '\t'
  else if c = 'r' then some '\r'
  else if c = '0' then some '\x00'
  else if c = '"' ∨ c = '\'' ∨ c = '\\' then some c
  else none

/-- The rest of a string of one line, after its opening quote. -/
def readQuotedFrom (quote : Char) (line : Nat) :
    List Char → Except SyntaxError (List Char × List Char)
  | [] => .error ⟨line, .unterminatedString⟩
  | '\\' :: r =>
    match r with
    | [] => .error ⟨line, .unterminatedEscape⟩
    | e :: r =>
      match escaped? e with
      | none => .error ⟨lineAfter line e, .unknownEscape e⟩
      | some ch => (readQuotedFrom quote line r).map fun (s, r) => (ch :: s, r)
  | ch :: r =>
    if ch = '\n' then .error ⟨line, .unterminatedString⟩
    else if ch = quote then .ok ([], r)
    else (readQuotedFrom quote line r).map fun (s, r) => (ch :: s, r)

/-- The rest of a string of several lines, which three quotes close. -/
def readMultilineFrom (start : Nat) : Nat → List Char → Except SyntaxError (List Char × Cursor)
  | _, [] => .error ⟨start, .unterminatedMultiline⟩
  | line, '"' :: '"' :: '"' :: r => .ok ([], ⟨r, line⟩)
  | line, '\\' :: r =>
    match r with
    | [] => .error ⟨line, .unterminatedEscape⟩
    | e :: r =>
      match escaped? e with
      | none => .error ⟨lineAfter line e, .unknownEscape e⟩
      | some ch => (readMultilineFrom start line r).map fun (s, c) => (ch :: s, c)
  | line, ch :: r => (readMultilineFrom start (lineAfter line ch) r).map fun (s, c) => (ch :: s, c)

def readQuoted (quote : Char) (c : Cursor) (body : List Char) :
    Except SyntaxError (String × Cursor) :=
  (readQuotedFrom quote c.line body).map fun (s, r) => (String.ofList s, c.moveTo r)

/-- A line end right after the opening quotes does not belong to the string. -/
def readMultiline (c : Cursor) (body : List Char) : Except SyntaxError (String × Cursor) :=
  let opened : Cursor := match body with
    | '\n' :: r => ⟨r, c.line + 1⟩
    | r => c.moveTo r
  (readMultilineFrom c.line opened.line opened.rest).map fun (s, c) => (String.ofList s, c)

/-- A bare word, as long as it goes on. -/
def readWord (c : Cursor) : String × Cursor :=
  (String.ofList (c.rest.takeWhile isIdentChar), c.moveTo (c.rest.dropWhile isIdentChar))

def readKey : Read String := fun c =>
  match c.rest with
  | [] => c.fail .endOfInput
  | '"' :: r => readQuoted '"' c r
  | '\'' :: r => readQuoted '\'' c r
  | ch :: _ =>
    if isKeyChar ch then
      .ok (String.ofList (c.rest.takeWhile isKeyChar), c.moveTo (c.rest.dropWhile isKeyChar))
    else c.fail (.keyExpected ch)

/-! ## Values -/

def isNumeralChar (ch : Char) : Bool :=
  ch.isAlphanum || ch == '-' || ch == '+' || ch == '.' || ch == '_'

def startsNumeral (ch : Char) : Bool := ch == '-' || ch == '+' || ch.isDigit

/-- The number that a numeral writes; underscores in it do not count. -/
def numeralValue? (text : List Char) : Option Value :=
  let cleaned := text.filter (· != '_')
  match readInt64? cleaned with
  | some i => some (.int i)
  | none => ((readBinary64? cleaned).filter Binary64.isFinite).map .float

def readNumber : Read Value := fun c =>
  let text := c.rest.takeWhile isNumeralChar
  match numeralValue? text with
  | some v => .ok (v, c.moveTo (c.rest.dropWhile isNumeralChar))
  | none => c.fail (.invalidNumber (String.ofList text))

/-- The value that a bare word stands for. -/
def wordValue (word : String) : Value :=
  if word = "true" then .bool true
  else if word = "false" then .bool false
  else if word = "null" then .null
  else .ident word

/-- Items up to the closing character, separated by commas; a comma may follow
the last. The fuel is at least the length of the text. -/
def readItems (close : Char) (item : Read α) (start : Nat) :
    Nat → Cursor → Except SyntaxError (List α × Cursor)
  | 0, _ => .error ⟨start, .missingClosing close⟩
  | fuel + 1, c => do
    let c := c.skipAll
    match c.rest with
    | [] => .error ⟨start, .missingClosing close⟩
    | ch :: r =>
      if ch = close then .ok ([], c.moveTo r)
      else
        let (x, c) ← item c
        let c := c.skipAll
        match c.rest with
        | [] => .error ⟨start, .missingClosing close⟩
        | ch :: r =>
          if ch = ',' then
            let (xs, c) ← readItems close item start fuel (c.moveTo r)
            .ok (x :: xs, c)
          else if ch = close then .ok ([x], c.moveTo r)
          else c.fail (.separatorExpected close ch)

/-- Items after an opening character, which the cursor is at. -/
def readDelimited (close : Char) (item : Read α) (c : Cursor) :
    Except SyntaxError (List α × Cursor) :=
  readItems close item c.line c.rest.length (c.moveTo c.rest.tail)

/-- The line reached by reading what stands in the place of an equals sign. -/
def lineAfterNext (c : Cursor) : Nat :=
  match c.rest with
  | [] => c.line
  | ch :: _ => lineAfter c.line ch

def readMapEntry (value : Read Value) : Read (String × Value) := fun c => do
  let (key, c) ← readKey c
  let c := c.skipInline
  match c.rest with
  | '=' :: r =>
    let (v, c) ← value (c.moveTo r).skipInline
    .ok ((key, v), c)
  | _ => .error ⟨lineAfterNext c, .missingEqualsInMap key⟩

/-- The first key that stands among the keys before it. -/
def firstRepeated? (seen : List String) : List String → Option String
  | [] => none
  | k :: ks => if seen.contains k then some k else firstRepeated? (k :: seen) ks

/-- A value. The fuel is more than the depth of its nesting. -/
def readValue : Nat → Cursor → Except SyntaxError (Value × Cursor)
  | 0, c => c.fail .missingValue
  | fuel + 1, c =>
    match c.rest with
    | [] => c.fail .missingValue
    | '"' :: '"' :: '"' :: r => (readMultiline c r).map fun (s, c) => (.string s, c)
    | '"' :: r => (readQuoted '"' c r).map fun (s, c) => (.string s, c)
    | '\'' :: r => (readQuoted '\'' c r).map fun (s, c) => (.string s, c)
    | '[' :: _ => (readDelimited ']' (readValue fuel) c).map fun (items, c) => (.list items, c)
    | '{' :: _ => do
      let (entries, c) ← readDelimited '}' (readMapEntry (readValue fuel)) c
      match firstRepeated? [] (entries.map (·.1)) with
      | some key => c.fail (.duplicateMapKey key)
      | none => .ok (.map entries, c)
    | ch :: _ =>
      if startsNumeral ch then readNumber c
      else if isWordStart ch then
        let (word, c) := readWord c
        .ok (wordValue word, c)
      else if ch = '\n' then c.fail .missingValue
      else c.fail (.valueExpected ch)

/-- The values after the first of a bare list. The fuel is at least the length
of the text. -/
def readMoreValues : Nat → Cursor → Except SyntaxError (List Value × Cursor)
  | 0, c => .ok ([], c)
  | fuel + 1, c =>
    match c.rest with
    | ',' :: r => do
      let (v, c) ← readValue (r.length + 1) (c.moveTo r).skipInline
      let (vs, c) ← readMoreValues fuel c.skipInline
      .ok (v :: vs, c)
    | _ => .ok ([], c)

/-- The value of an entry; values separated by commas make a list. -/
def readEntryValue : Read Value := fun c => do
  let (v, c) ← readValue (c.rest.length + 1) c
  let (vs, c) ← readMoreValues c.rest.length c.skipInline
  .ok (if vs.isEmpty then v else .list (v :: vs), c)

/-! ## Routings -/

def readTarget : Read String := fun c =>
  match c.rest with
  | [] => c.fail .missingTarget
  | '"' :: r => readQuoted '"' c r
  | '\'' :: r => readQuoted '\'' c r
  | ch :: _ => if ch.isAlphanum || ch == '_' then .ok (readWord c) else c.fail (.targetExpected ch)

/-- The targets after the first of a fan-out. The fuel is at least the length of
the text. -/
def readMoreTargets : Nat → Cursor → Except SyntaxError (List String × Cursor)
  | 0, c => .ok ([], c)
  | fuel + 1, c =>
    match c.rest with
    | ',' :: r => do
      let (t, c) ← readTarget (c.moveTo r).skipInline
      let (ts, c) ← readMoreTargets fuel c.skipInline
      .ok (t :: ts, c)
    | _ => .ok ([], c)

def readRouting : Read Routing := fun c =>
  match c.rest with
  | '[' :: _ => (readDelimited ']' readTarget c).map fun (ts, c) =>
    (if ts.isEmpty then .none else .branch ts, c)
  | '{' :: _ => (readDelimited '}' readTarget c).map fun (ts, c) => (.select ts, c)
  | _ => do
    let (t, c) ← readTarget c
    let (ts, c) ← readMoreTargets c.rest.length c.skipInline
    .ok (.fanOut (t :: ts), c)

/-! ## Blocks -/

inductive Body where
  | values (entries : List (String × Value))
  | routes (edges : List (String × Routing))

def Body.keys : Body → List String
  | values entries => entries.map (·.1)
  | routes edges => edges.map (·.1)

structure Block where
  name : String
  /-- The line of the header. -/
  line : Nat
  body : Body

/-- The name of the block whose entries are routings. -/
def edgesName : String := "edges"

/-- A header, which the cursor is at, and the end of its line. -/
def readHeader : Read String := fun c => do
  let inside := c.rest.tail.takeWhile fun ch => ch != ']' && ch != '\n'
  match c.rest.tail.dropWhile fun ch => ch != ']' && ch != '\n' with
  | ']' :: r =>
    let name := Text.trim inside
    if name.isEmpty then c.fail .emptySectionName
    else
      let c ← endLine (c.moveTo r)
      .ok (String.ofList name, c)
  | [] => c.fail .unterminatedHeader
  | _ => .error ⟨c.line + 1, .unterminatedHeader⟩

/-- The value of an entry, added to the body it belongs to. -/
def readInto (body : Body) (key : String) (c : Cursor) : Except SyntaxError (Body × Cursor) :=
  match body with
  | .values entries => (readEntryValue c).map fun (v, c) => (.values (entries ++ [(key, v)]), c)
  | .routes edges => (readRouting c).map fun (r, c) => (.routes (edges ++ [(key, r)]), c)

/-- An entry, added to a block. -/
def readEntry (b : Block) : Read Block := fun c => do
  let line := c.line
  let (key, c) ← readKey c
  let c := c.skipInline
  match c.rest with
  | '=' :: r =>
    let (body, c) ← readInto b.body key (c.moveTo r).skipInline
    let c ← endLine c
    if b.body.keys.contains key then .error ⟨line, .duplicateKey key b.name⟩
    else .ok ({ b with body }, c)
  | _ => .error ⟨line, .missingEquals key⟩

/-- The blocks of a text that follow those given, the last of which comes first.
The fuel is more than the length of the text. -/
def readBlocks : Nat → List Block → Cursor → Except SyntaxError (List Block)
  | 0, blocks, _ => .ok blocks.reverse
  | fuel + 1, blocks, c => do
    let c := c.skipAll
    match c.rest with
    | [] => .ok blocks.reverse
    | '[' :: _ =>
      let (name, after) ← readHeader c
      if (blocks.map Block.name).contains name then c.fail (.duplicateSection name)
      else
        let body := if name = edgesName then Body.routes [] else Body.values []
        readBlocks fuel (⟨name, c.line, body⟩ :: blocks) after
    | _ =>
      match blocks with
      | [] => c.fail .outsideSection
      | b :: bs =>
        let (b, after) ← readEntry b c
        readBlocks fuel (b :: bs) after

/-- The blocks of a document in order. -/
def blocks (text : String) : Except SyntaxError (List Block) :=
  readBlocks (text.toList.length + 1) [] ⟨text.toList, 1⟩

end FlowEngine.Document
