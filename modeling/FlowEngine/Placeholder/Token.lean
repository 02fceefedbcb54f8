import FlowEngine.Placeholder.Expr
import FlowEngine.Text.Basic

/-!
# Tokens of placeholder expressions

A word that follows a dot is a path segment, which may start with a digit; any
other word starts with a letter or an underscore. The word `key` and a colon
take everything up to a blank, a bar, a comma or a closing parenthesis as the
key of a stored value.
-/

namespace FlowEngine

inductive Token where
  | ident (word : String)
  | segment (word : String)
  | storageKey (key : String)
  | text (s : String)
  | number (n : Json.Number)
  | dot
  | pipe
  | openParen
  | closeParen
  | comma
  | comparison (op : Comparison)
deriving DecidableEq, Repr

namespace Token

def comparisonName : Comparison → String
  | .eq => "Eq"
  | .ne => "Ne"
  | .gt => "Gt"
  | .lt => "Lt"
  | .ge => "Ge"
  | .le => "Le"

/-- How messages show a token. -/
def describe : Token → String
  | ident w => "Ident(" ++ Text.quoted w ++ ")"
  | segment w => "Segment(" ++ Text.quoted w ++ ")"
  | storageKey k => "StorageKey(" ++ Text.quoted k ++ ")"
  | text s => "Str(" ++ Text.quoted s ++ ")"
  | number n => "Num(Number(" ++ n.text ++ "))"
  | dot => "Dot"
  | pipe => "Pipe"
  | openParen => "LParen"
  | closeParen => "RParen"
  | comma => "Comma"
  | comparison op => "Op(" ++ comparisonName op ++ ")"

/-- How messages show a token that may be missing. -/
def describe? : Option Token → String
  | some t => "Some(" ++ t.describe ++ ")"
  | none => "None"

inductive Error where
  | unexpected (c : Char)
  | unterminatedText
  | invalidNumber (text : String)
  | emptyStorageKey
deriving DecidableEq, Repr

def Error.message : Error → String
  | .unexpected c => "unexpected '" ++ String.singleton c ++ "'"
  | .unterminatedText => "unterminated string literal"
  | .invalidNumber t => "invalid number '" ++ t ++ "'"
  | .emptyStorageKey => "empty storage key"

/-! ## Classes of characters -/

def isSpace (c : Char) : Bool := c == ' ' || c == '\t' || c == '\n' || c == '\r'

def isWordChar (c : Char) : Bool := Text.isAlphanumeric c || c == '_' || c == '-'

def isWordStart (c : Char) : Bool := Text.isAlphabetic c || c == '_'

def isNumeralChar (c : Char) : Bool := c.isDigit || c == '.' || c == 'e' || c == 'E'

def isStorageKeyChar (c : Char) : Bool := !(Text.isBlank c || c == '|' || c == ')' || c == ',')

/-! ## Scanning -/

/-- A character after a backslash. -/
def unescape (c : Char) : Char := if c = 'n' then '\n' else if c = 't' then '\t' else c

/-- The text up to the closing quote, and what follows the quote. -/
def readText? (quote : Char) : List Char → Option (List Char × List Char)
  | [] => none
  | ['\\'] => none
  | '\\' :: c :: r => (readText? quote r).map fun (s, r) => (unescape c :: s, r)
  | c :: r => if c = quote then some ([], r) else (readText? quote r).map fun (s, r) => (c :: s, r)

/-- An integer of 64 bits, or else a finite floating-point number. -/
def readNumeral (cs : List Char) : Except Error Token :=
  match readInt64? cs with
  | some i => .ok (.number (.int i))
  | none =>
    match (readBinary64? cs).bind Json.Number.ofBinary64? with
    | some n => .ok (.number n)
    | none => .error (.invalidNumber (String.ofList cs))

/-- The token that a word and the text after it make. -/
def ofWord (word rest : List Char) : Except Error (Token × List Char) :=
  match word, rest with
  | ['k', 'e', 'y'], ':' :: r =>
    let key := r.takeWhile isStorageKeyChar
    if key.isEmpty then .error .emptyStorageKey
    else .ok (.storageKey (String.ofList key), r.dropWhile isStorageKeyChar)
  | _, _ => .ok (.ident (String.ofList word), rest)

/-- A comparison operator at the front of a text. -/
def comparison? : List Char → Option (Comparison × List Char)
  | '=' :: '=' :: r => some (.eq, r)
  | '!' :: '=' :: r => some (.ne, r)
  | '>' :: '=' :: r => some (.ge, r)
  | '<' :: '=' :: r => some (.le, r)
  | '>' :: r => some (.gt, r)
  | '<' :: r => some (.lt, r)
  | _ => none

def startsNumeral (c : Char) (rest : List Char) : Bool :=
  c.isDigit || (c == '-' && (rest.head?.any Char.isDigit))

/-- The token that starts with `c`, which is no space, and the text after it. -/
def next (afterDot : Bool) (c : Char) (rest : List Char) : Except Error (Token × List Char) :=
  if c = '.' then .ok (.dot, rest)
  else if c = '|' then .ok (.pipe, rest)
  else if c = '(' then .ok (.openParen, rest)
  else if c = ')' then .ok (.closeParen, rest)
  else if c = ',' then .ok (.comma, rest)
  else if c = '=' ∨ c = '!' ∨ c = '>' ∨ c = '<' then
    match comparison? (c :: rest) with
    | some (op, r) => .ok (.comparison op, r)
    | none => .error (.unexpected c)
  else if c = '"' ∨ c = '\'' then
    match readText? c rest with
    | some (s, r) => .ok (.text (String.ofList s), r)
    | none => .error .unterminatedText
  else if afterDot && isWordChar c then
    .ok (.segment (String.ofList (c :: rest.takeWhile isWordChar)), rest.dropWhile isWordChar)
  else if startsNumeral c rest then
    (readNumeral (c :: rest.takeWhile isNumeralChar)).map fun t =>
      (t, rest.dropWhile isNumeralChar)
  else if isWordStart c then
    ofWord (c :: rest.takeWhile isWordChar) (rest.dropWhile isWordChar)
  else .error (.unexpected c)

/-- All tokens of a text. The fuel is at least its length. -/
def scan (afterDot : Bool) : Nat → List Char → Except Error (List Token)
  | _, [] => .ok []
  | 0, _ => .ok []
  | fuel + 1, c :: rest =>
    if isSpace c then scan afterDot fuel rest
    else do
      let (t, r) ← next afterDot c rest
      let ts ← scan (t == .dot) fuel r
      .ok (t :: ts)

end Token

def tokenize (cs : List Char) : Except Token.Error (List Token) := Token.scan false cs.length cs

end FlowEngine
