import FlowEngine.Text.Basic
import FlowEngine.Workflow.Assembly
import FlowEngine.Workflow.Validation

/-!
# Catalogs

Compiled workflows under their names. Loading a document under a name that is
taken replaces what was there; a document that is refused changes nothing.
-/

namespace FlowEngine

/-- The workflow that a document describes, checked. -/
def CompiledWorkflow.ofDocument (cal : Calendar) (text : String) : Except FlowError CompiledWorkflow := do
  let w ← Workflow.parse text
  w.compile cal

structure Catalog where
  flows : Entries CompiledWorkflow

namespace Catalog

def empty : Catalog := ⟨[]⟩

def get? (c : Catalog) (name : String) : Option CompiledWorkflow := Entries.get? c.flows name

def insert (c : Catalog) (flow : CompiledWorkflow) : Catalog :=
  ⟨Entries.insert c.flows flow.name flow⟩

/-- The catalog without a workflow, and whether it was there. -/
def remove (c : Catalog) (name : String) : Bool × Catalog :=
  let (old, flows) := Entries.take c.flows name
  (old.isSome, ⟨flows⟩)

/-- The names in order. -/
def names (c : Catalog) : List String := Text.sorted (Entries.keys c.flows)

/-- The workflows in the order of their names. -/
def all (c : Catalog) : List CompiledWorkflow := c.names.filterMap c.get?

/-- Load a document. -/
def load (c : Catalog) (cal : Calendar) (text : String) : Except FlowError (CompiledWorkflow × Catalog) := do
  let flow ← CompiledWorkflow.ofDocument cal text
  .ok (flow, c.insert flow)

end Catalog

/-! ## Directories -/

/-- Whether a file is a flow document by its name: its extension is `flow`, which
takes a text before the dot. -/
def isFlowFile (name : String) : Bool :=
  name.toList.length > 5 && ".flow".toList.isSuffixOf name.toList

/-- What a listing gives next: a file by its name, with its text or the error of
reading it, or the error that the listing breaks off with. -/
abbrev Listed (ε : Type) := Except ε (String × Except ε String)

/-- Why a directory is not loaded to its end. -/
inductive LoadFault (ε : Type) where
  /-- The directory cannot be opened. -/
  | unopened (e : ε)
  /-- The listing breaks off. -/
  | interrupted (e : ε)
  | unreadable (file : String) (e : ε)
  | refused (file : String) (e : FlowError)

namespace LoadFault

/-- The path of a file in a directory. -/
def path (directory file : String) : String :=
  match directory.toList.getLast? with
  | none | some '/' => directory ++ file
  | some _ => directory ++ "/" ++ file

def message (text : ε → String) (directory : String) : LoadFault ε → String
  | unopened _ => "Failed to read flow directory " ++ directory
  | interrupted e => text e
  | unreadable file _ => "Failed to read " ++ path directory file
  | refused file _ => "Invalid flow document " ++ path directory file

/-- The only fault there is where the system has none. -/
def document : LoadFault Empty → FlowError
  | refused _ e => e

end LoadFault

namespace Catalog

/-- Load the flow documents of a listing one after the other until something fails;
those before it stay. The answer holds the names in the order of loading. -/
def loadListing (c : Catalog) (cal : Calendar) : List (Listed ε) → Except (LoadFault ε) (List String) × Catalog
  | [] => (.ok [], c)
  | .error e :: _ => (.error (.interrupted e), c)
  | .ok (file, text) :: rest =>
    if isFlowFile file then
      match text with
      | .error e => (.error (.unreadable file e), c)
      | .ok text =>
        match c.load cal text with
        | .error e => (.error (.refused file e), c)
        | .ok (flow, c) =>
          let (names, c) := loadListing c cal rest
          (names.map (flow.name :: ·), c)
    else loadListing c cal rest

/-- Load the flow documents of a directory. The answer holds the names of the workflows
in order. -/
def loadFrom (c : Catalog) (cal : Calendar) (directory : Except ε (List (Listed ε))) :
    Except (LoadFault ε) (List String) × Catalog :=
  match directory with
  | .error e => (.error (.unopened e), c)
  | .ok listing =>
    let (names, c) := c.loadListing cal listing
    (names.map Text.sorted, c)

/-- Load the flow documents among files that can all be read, given as names with
contents. -/
def loadDirectory (c : Catalog) (cal : Calendar) (files : List (String × String)) :
    Except FlowError (List String) × Catalog :=
  let listing : List (Listed Empty) := files.map fun f => .ok (f.1, .ok f.2)
  let (names, c) := c.loadFrom cal (.ok listing)
  (names.mapError LoadFault.document, c)

end Catalog

end FlowEngine
