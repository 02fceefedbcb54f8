/-!
# Words of flow documents

Which texts a document can hold bare, and how the others are quoted.
-/

namespace FlowEngine.Document

/-- The characters of a bare identifier. -/
def isIdentChar (c : Char) : Bool :=
  c.isAlphanum || c == '_' || c == '.' || c == '/' || c == ':' || c == '-'

/-- The characters of a bare key. -/
def isKeyChar (c : Char) : Bool := c.isAlphanum || c == '_' || c == '.' || c == '-'

def isWordStart (c : Char) : Bool := c.isAlpha || c == '_'

/-- The words that stand for values of their own. -/
def reservedWords : List String := ["true", "false", "null"]

/-- Whether a text reads back as an identifier when it is written bare. -/
def isBareIdent (s : String) : Bool :=
  match s.toList with
  | [] => false
  | c :: cs => isWordStart c && !reservedWords.contains s && cs.all isIdentChar

def isBareKey (s : String) : Bool := !s.toList.isEmpty && s.toList.all isKeyChar

/-- A character within double quotes. -/
def quoteChar (c : Char) : List Char :=
  if c = '"' then ['\\', '"']
  else if c = '\\' then ['\\', '\\']
  else if c = '\n' then ['\\', 'n']
  else if c = '\t' then ['\\', 't']
  else if c = '\r' then ['\\', 'r']
  else [c]

def quote (s : String) : List Char := '"' :: (s.toList.flatMap quoteChar ++ ['"'])

/-- A key as a document writes it. -/
def writeKey (s : String) : List Char := if isBareKey s then s.toList else quote s

/-- A name as a document writes it: a node, a node type or a handler. -/
def writeName (s : String) : List Char := if isBareIdent s then s.toList else quote s

end FlowEngine.Document
