import FlowEngine.Text.LetterTable
import FlowEngine.Text.PrintableTable

/-!
# Characters and texts

Classes of characters, and what is done with texts as rows of characters. ASCII is
decided by rule and all else by table, so that facts about the characters of a
grammar need no table.
-/

namespace FlowEngine.Text

/-- Whether a sorted table of ranges between the indices `low` and `high` holds
a code point. The fuel is at least the number of halvings. -/
def searchRanges (table : Array (Nat × Nat)) (point : Nat) : Nat → Nat → Nat → Bool
  | 0, _, _ => false
  | fuel + 1, low, high =>
    if low < high then
      let mid := (low + high) / 2
      match table[mid]? with
      | none => false
      | some (a, b) =>
        if point < a then searchRanges table point fuel low mid
        else if b < point then searchRanges table point fuel (mid + 1) high
        else true
    else false

/-- Whether a sorted table of ranges holds a character. -/
def inRanges (table : Array (Nat × Nat)) (c : Char) : Bool :=
  searchRanges table c.toNat (table.size + 1) 0 table.size

def isAscii (c : Char) : Bool := decide (c.toNat < 128)

def isAlphabetic (c : Char) : Bool :=
  if isAscii c then c.isAlpha else inRanges letterRanges c

def isNumeric (c : Char) : Bool :=
  if isAscii c then c.isDigit else inRanges numberRanges c

def isAlphanumeric (c : Char) : Bool := isAlphabetic c || isNumeric c

/-- The characters with the White_Space property. -/
def isBlank (c : Char) : Bool :=
  let n := c.toNat
  (9 ≤ n && n ≤ 13) || n == 32 || n == 0x85 || n == 0xA0 || n == 0x1680
    || (0x2000 ≤ n && n ≤ 0x200A) || n == 0x2028 || n == 0x2029 || n == 0x202F
    || n == 0x205F || n == 0x3000

def isPrintable (c : Char) : Bool :=
  if isAscii c then decide (32 ≤ c.toNat) && c.toNat != 127 else !inRanges unprintableRanges c

/-- Characters that join the one before them on the page. -/
def isExtender (c : Char) : Bool := !isAscii c && inRanges extenderRanges c

/-! ## Trimming -/

def trimLeft (cs : List Char) : List Char := cs.dropWhile isBlank

def trimRight (cs : List Char) : List Char := (trimLeft cs.reverse).reverse

/-- The text without the blanks at its ends. -/
def trim (cs : List Char) : List Char := trimRight (trimLeft cs)

def trimmed (s : String) : String := String.ofList (trim s.toList)

/-! ## Quoting

Messages quote names so that every character can be told apart: controls,
unprintable characters and characters that would join the quote before them are
written by their code points. -/

/-- A character by its code point, `\u` and lower-case hexadecimal in braces. -/
def pointEscape (c : Char) : List Char :=
  '\\' :: 'u' :: '{' :: (Nat.toDigits 16 c.toNat ++ ['}'])

def quoteChar (c : Char) : List Char :=
  if c = '\x00' then ['\\', '0']
  else if c = '\t' then ['\\', 't']
  else if c = '\r' then ['\\', 'r']
  else if c = '\n' then ['\\', 'n']
  else if c = '"' then ['\\', '"']
  else if c = '\\' then ['\\', '\\']
  else if isExtender c || !isPrintable c then pointEscape c
  else [c]

/-- The text between double quotes. -/
def quoted (s : String) : String :=
  String.ofList ('"' :: (s.toList.flatMap quoteChar ++ ['"']))

/-! ## Order

Texts are ordered by the code points of their characters, the first difference
deciding. -/

def order : List Char → List Char → Ordering
  | [], [] => .eq
  | [], _ :: _ => .lt
  | _ :: _, [] => .gt
  | a :: as, b :: bs => (compare a.toNat b.toNat).then (order as bs)

/-- The texts of a list in order. -/
def sorted (ss : List String) : List String :=
  ss.mergeSort fun a b => order a.toList b.toList != .gt

/-! ## Dots

A dotted text is a row of segments with dots between them. A text without a dot
is one segment. -/

/-- The texts between the dots of a text. -/
def splitDots : List Char → List (List Char)
  | [] => [[]]
  | '.' :: cs => [] :: splitDots cs
  | c :: cs =>
    match splitDots cs with
    | [] => [[c]]
    | s :: ss => (c :: s) :: ss

/-- The segments of a dotted text. -/
def segments (cs : List Char) : List String := (splitDots cs).map String.ofList

/-- The ways to cut a text in two at a dot, the shortest first part first. -/
def cutsAtDots : List Char → List (List Char × List Char)
  | [] => []
  | c :: cs =>
    let later := (cutsAtDots cs).map fun (a, b) => (c :: a, b)
    if c = '.' then ([], cs) :: later else later

/-! ## Bytes

The bytes of a text in UTF-8, and the parts of a text between byte offsets. There
is no part where an offset is past the end or within a character. -/

def bytes (cs : List Char) : List UInt8 := cs.flatMap String.utf8EncodeChar

/-- The text before a byte offset, and the text from there on. -/
def cut? : List Char → Nat → Option (List Char × List Char)
  | cs, 0 => some ([], cs)
  | [], _ + 1 => none
  | c :: cs, n + 1 =>
    if c.utf8Size ≤ n + 1 then (cut? cs (n + 1 - c.utf8Size)).map fun (s, r) => (c :: s, r)
    else none

/-- The text between two byte offsets. -/
def slice? (cs : List Char) (start stop : Nat) : Option (List Char) :=
  (cut? cs stop).bind fun (s, _) => (cut? s start).map (·.2)

end FlowEngine.Text
