/-!
# Faults of flow documents

What can be wrong with the text of a document, and with the fields that its
sections must have.
-/

namespace FlowEngine.Document

inductive SyntaxFault where
  | afterValue (c : Char)
  | duplicateSection (name : String)
  | outsideSection
  | missingEquals (key : String)
  | missingEqualsInMap (key : String)
  | duplicateKey (key sectionName : String)
  | duplicateMapKey (key : String)
  | unterminatedHeader
  | emptySectionName
  | keyExpected (c : Char)
  | endOfInput
  | missingValue
  | valueExpected (c : Char)
  | unterminatedString
  | unterminatedMultiline
  | unknownEscape (c : Char)
  | unterminatedEscape
  | invalidNumber (text : String)
  | missingClosing (close : Char)
  | separatorExpected (close found : Char)
  | targetExpected (c : Char)
  | missingTarget
  | nodeWithoutId
deriving DecidableEq, Repr

def SyntaxFault.message : SyntaxFault → String
  | afterValue c => "unexpected '" ++ c.toString ++ "' after value"
  | duplicateSection name => "duplicate section [" ++ name ++ "]"
  | outsideSection => "entry outside of any section"
  | missingEquals key => "expected '=' after key '" ++ key ++ "'"
  | missingEqualsInMap key => "expected '=' after key '" ++ key ++ "' in inline map"
  | duplicateKey key name => "duplicate key '" ++ key ++ "' in [" ++ name ++ "]"
  | duplicateMapKey key => "duplicate key '" ++ key ++ "' in inline map"
  | unterminatedHeader => "unterminated section header"
  | emptySectionName => "empty section name"
  | keyExpected c => "unexpected '" ++ c.toString ++ "' where a key was expected"
  | endOfInput => "unexpected end of input"
  | missingValue => "missing value"
  | valueExpected c => "unexpected '" ++ c.toString ++ "' where a value was expected"
  | unterminatedString => "unterminated string"
  | unterminatedMultiline => "unterminated multi-line string"
  | unknownEscape c => "unknown escape '\\" ++ c.toString ++ "'"
  | unterminatedEscape => "unterminated escape"
  | invalidNumber text => "invalid number '" ++ text ++ "'"
  | missingClosing close => "missing closing '" ++ close.toString ++ "'"
  | separatorExpected close found =>
    "expected ',' or '" ++ close.toString ++ "', found '" ++ found.toString ++ "'"
  | targetExpected c => "unexpected '" ++ c.toString ++ "' where a node id was expected"
  | missingTarget => "missing edge target"
  | nodeWithoutId => "node section without an id"

/-- A fault and the line it is reported on. -/
structure SyntaxError where
  line : Nat
  fault : SyntaxFault
deriving DecidableEq, Repr

inductive SchemaFault where
  | nodeTypeMissing (id : String)
  | nodeTypeNotText (id : String)
  | nodeHandlerNotText (id : String)
  | workflowMissing
  | startNodeMissing
  | startNodeNotText
  | headerNotText (key : String)
deriving DecidableEq, Repr

def SchemaFault.message : SchemaFault → String
  | nodeTypeMissing id => "node '" ++ id ++ "' is missing required field 'type'"
  | nodeTypeNotText id => "node '" ++ id ++ "' has a non-text 'type'"
  | nodeHandlerNotText id => "node '" ++ id ++ "' has a non-text 'handler'"
  | workflowMissing => "missing [workflow] section"
  | startNodeMissing => "[workflow] is missing required field 'start_node'"
  | startNodeNotText => "[workflow] 'start_node' must be a string"
  | headerNotText key => "[workflow] '" ++ key ++ "' must be text"

end FlowEngine.Document
