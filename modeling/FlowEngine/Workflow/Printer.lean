import FlowEngine.Workflow.Definition

/-!
# Writing workflows

The document of a workflow, block by block.
-/

namespace FlowEngine

open Document (Value writeKey writeName quote)

namespace Routing

/-- The targets of a routing, separated by commas. -/
def writeTargets (targets : List String) : List Char :=
  [',', ' '].intercalate (targets.map writeName)

def write : Routing → List Char
  | fanOut [] => ['[', ']']
  | fanOut targets => writeTargets targets
  | branch targets => '[' :: (writeTargets targets ++ [']'])
  | select targets => '{' :: ' ' :: (writeTargets targets ++ [' ', '}'])
  | none => ['[', ']']

end Routing

namespace Workflow

/-- One line of a block. -/
def writeLine (key value : List Char) : List Char := key ++ [' ', '=', ' '] ++ value ++ ['\n']

def writeEntries (entries : Entries Value) : List Char :=
  entries.flatMap fun (k, v) => writeLine (writeKey k) v.write

def writeHeader (name : String) : List Char := '\n' :: '[' :: (name.toList ++ [']', '\n'])

/-- A block that is left out when it has no entries. -/
def writeBlock (name : String) (entries : Entries Value) : List Char :=
  if entries.isEmpty then [] else writeHeader name ++ writeEntries entries

def writeNode (n : Node) : List Char :=
  writeHeader ("node." ++ n.id)
    ++ writeLine "type".toList (writeName n.kind)
    ++ writeLine "label".toList (quote n.label)
    ++ (match n.handler with
      | some h => writeLine "handler".toList (writeName h)
      | none => [])
    ++ writeEntries n.config

def writeEdges (edges : List (String × Routing)) : List Char :=
  if edges.isEmpty then []
  else writeHeader "edges" ++ edges.flatMap fun (source, r) => writeLine (writeKey source) r.write

def write (w : Workflow) : List Char :=
  "[workflow]\n".toList
    ++ writeLine "name".toList (quote w.name)
    ++ writeLine "description".toList (quote w.description)
    ++ writeLine "start_node".toList (quote w.startNode)
    ++ writeEntries w.headerExtra
    ++ writeBlock "parameters" w.parameters
    ++ writeBlock "settings" w.settings.raw
    ++ w.nodes.flatMap writeNode
    ++ writeEdges w.edges
    ++ w.sections.flatMap fun s => writeHeader s.name ++ writeEntries s.entries

/-- The document of a workflow. -/
def document (w : Workflow) : String := String.ofList w.write

end Workflow

end FlowEngine
