import FlowEngine.Document.Reader
import FlowEngine.Error
import FlowEngine.Workflow.Definition

/-!
# Workflows from documents

The blocks of a document in order: the header, parameters, settings, nodes and
edges have their meaning, and any other block is passed through.
-/

namespace FlowEngine

open Document (Value Block Body SchemaFault)

namespace Workflow

/-- The entries of a block as an ordered map. -/
def entriesOf : Body → Entries Value
  | .values entries => Entries.ofList entries
  | .routes _ => []

/-- The id in the name of a node block. -/
def nodeId? (name : String) : Option (List Char) :=
  if "node.".toList.isPrefixOf name.toList then
    some (Text.trim (name.toList.drop "node.".toList.length))
  else none

/-- The node that a block with the given id describes. -/
def readNode (id : String) (entries : Entries Value) : Except SchemaFault Node := do
  let (kind, entries) := entries.take "type"
  let kind ← match kind with
    | none => .error (.nodeTypeMissing id)
    | some v => match v.asText? with
      | none => .error (.nodeTypeNotText id)
      | some s => .ok s
  let (label, entries) := entries.take "label"
  let label := match label with
    | none => id
    | some v => v.asText?.getD v.text
  let (handler, entries) := entries.take "handler"
  let handler ← match handler with
    | none => .ok none
    | some .null => .ok none
    | some v => match v.asText? with
      | none => .error (.nodeHandlerNotText id)
      | some s => .ok (some s)
  .ok ⟨id, kind, label, entries, handler⟩

/-- What the blocks read so far amount to. -/
structure Draft where
  header : Option (Entries Value)
  parameters : Entries Value
  settings : Settings
  nodes : List Node
  edges : List (String × Routing)
  sections : List Section

def Draft.empty : Draft := ⟨none, [], .default, [], [], []⟩

/-- Take one more block into account. -/
def Draft.add (d : Draft) (b : Block) : Except FlowError Draft :=
  match b.body with
  | .routes edges => .ok { d with edges := d.edges ++ edges }
  | .values _ =>
    let entries := entriesOf b.body
    if b.name = "workflow" then .ok { d with header := some entries }
    else if b.name = "parameters" then .ok { d with parameters := entries }
    else if b.name = "settings" then .ok { d with settings := .ofEntries entries }
    else
      match nodeId? b.name with
      | some [] => .error (.malformed ⟨b.line, .nodeWithoutId⟩)
      | some id =>
        match readNode (String.ofList id) entries with
        | .ok n => .ok { d with nodes := d.nodes ++ [n] }
        | .error fault => .error (.schema fault)
      | none => .ok { d with sections := d.sections ++ [⟨b.name, entries⟩] }

/-- A text of the header that may be absent, and the other entries. -/
def takeText (key : String) (header : Entries Value) :
    Except SchemaFault (String × Entries Value) :=
  let (value, header) := header.take key
  match value with
  | none => .ok ("", header)
  | some .null => .ok ("", header)
  | some v => match v.asText? with
    | none => .error (.headerNotText key)
    | some s => .ok (s, header)

def startNodeOf (header : Entries Value) : Except SchemaFault String :=
  match header.get? "start_node" with
  | none => .error .startNodeMissing
  | some v => match v.asText? with
    | none => .error .startNodeNotText
    | some s => .ok s

/-- The finished workflow. Of two nodes with one id the first is kept. -/
def Draft.finish (d : Draft) : Except SchemaFault Workflow := do
  let header ← match d.header with
    | none => .error .workflowMissing
    | some header => .ok header
  let startNode ← startNodeOf header
  let (name, header) ← takeText "name" header
  let (description, header) ← takeText "description" header
  let w : Workflow :=
    { name, description, startNode, parameters := d.parameters, settings := d.settings, nodes := [],
      edges := d.edges, sections := d.sections, headerExtra := header.erase "start_node" }
  .ok (d.nodes.foldl (fun w n => (w.addNode n).2) w)

def ofBlocks (blocks : List Block) : Except FlowError Workflow := do
  let draft ← blocks.foldlM Draft.add .empty
  match draft.finish with
  | .ok w => .ok w
  | .error fault => .error (.schema fault)

/-- The workflow that a document describes. -/
def parse (text : String) : Except FlowError Workflow :=
  match Document.blocks text with
  | .ok blocks => ofBlocks blocks
  | .error e => .error (.malformed e)

end Workflow

end FlowEngine
