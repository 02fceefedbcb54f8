import Mathlib
import FlowEngine.Proofs.Workflow.Readable
import FlowEngine.Workflow.Printer

/-!
# Workflows read back

The document of a readable workflow is a row of pages, and the blocks read from
it assemble to the workflow they were written from. Since documents describe
readable workflows only, parsing, writing and parsing again changes nothing
(`parse_document`).
-/

namespace FlowEngine

open Document (Value Block Body Page HeaderName ReadableRouting edgesName isBareIdent writeName writeKey quote)

/-! ## Names as values -/

def nameValue (s : String) : Value := if isBareIdent s then .ident s else .string s

theorem write_nameValue (s : String) : (nameValue s).write = writeName s := by
  unfold nameValue writeName
  split
  · rfl
  · rfl

theorem asText?_nameValue (s : String) : (nameValue s).asText? = some s := by
  unfold nameValue
  split
  · rfl
  · rfl

theorem nameValue_canonical (s : String) : (nameValue s).Canonical := by
  unfold nameValue
  split
  · rename_i h; exact h
  · trivial

/-! ## Pages of a workflow -/

namespace Node

def handlerEntries (n : Node) : Entries Value :=
  match n.handler with
  | some h => [("handler", nameValue h)]
  | none => []

def entries (n : Node) : Entries Value :=
  ("type", nameValue n.kind) :: ("label", .string n.label) :: (n.handlerEntries ++ n.config)

def page (n : Node) : Page := ("node." ++ n.id, .values n.entries)

theorem canonical_entries {n : Node} (h : ReadableNode n) : ∀ e ∈ n.entries, e.2.Canonical := by
  refine List.forall_mem_cons.mpr ⟨nameValue_canonical _, List.forall_mem_cons.mpr ⟨trivial, ?_⟩⟩
  intro e he
  rcases List.mem_append.mp he with he | he
  · unfold handlerEntries at he
    split at he
    · rw [List.mem_singleton.mp he]
      exact nameValue_canonical _
    · cases he
  · exact h.config.values e he

theorem keys_entries {n : Node} (h : ReadableNode n) : (Entries.keys n.entries).Nodup := by
  have hk := h.config.keys
  have hf := h.config.free
  have h1 : "type" ∉ n.config.keys := fun hm => hf _ hm (by simp)
  have h2 : "label" ∉ n.config.keys := fun hm => hf _ hm (by simp)
  have h3 : "handler" ∉ n.config.keys := fun hm => hf _ hm (by simp)
  unfold Entries.keys at *
  unfold entries handlerEntries
  split
  · simp [h1, h2, h3, hk]
  · simp [h1, h2, hk]

theorem readNode_entries {n : Node} (h : ReadableNode n) : Workflow.readNode n.id n.entries = .ok n := by
  have hf := h.config.free
  have h3 : "handler" ∉ n.config.keys := fun hm => hf _ hm (by simp)
  have htake := Entries.take_of_not_mem h3
  obtain ⟨id, kind, label, config, handler⟩ := n
  have hkind : Entries.take (entries ⟨id, kind, label, config, handler⟩) "type"
      = (some (nameValue kind), ("label", .string label) :: (handlerEntries ⟨id, kind, label, config, handler⟩ ++ config)) := by
    simp [entries, Entries.take]
  have hlabel : Entries.take (("label", Value.string label) :: (handlerEntries ⟨id, kind, label, config, handler⟩ ++ config)) "label"
      = (some (.string label), handlerEntries ⟨id, kind, label, config, handler⟩ ++ config) := by
    simp [Entries.take]
  simp only [Workflow.readNode, hkind, asText?_nameValue, ok_bind, hlabel]
  cases handler with
  | none =>
    have hnone : Entries.take (handlerEntries ⟨id, kind, label, config, none⟩ ++ config) "handler" = (none, config) :=
      htake
    simp only [hnone]
    rfl
  | some t =>
    have hsome : Entries.take (handlerEntries ⟨id, kind, label, config, some t⟩ ++ config) "handler"
        = (some (nameValue t), config) := by
      simp [handlerEntries, Entries.take]
    simp only [hsome]
    split
    · rename_i he; cases he
    · rename_i he
      have := asText?_nameValue t
      rw [Option.some.inj he] at this
      cases this
    · rename_i he
      rw [← Option.some.inj he, asText?_nameValue]
      rfl

end Node

namespace Workflow

def optionalPage (p : Page) : List Page := if p.2.keys.isEmpty then [] else [p]

def headerEntries (w : Workflow) : Entries Value :=
  ("name", .string w.name) :: ("description", .string w.description) :: ("start_node", .string w.startNode)
    :: w.headerExtra

def sectionPage (s : Section) : Page := (s.name, .values s.entries)

/-- The pages of the document of a workflow. -/
def pages (w : Workflow) : List Page :=
  ("workflow", .values w.headerEntries)
    :: (optionalPage ("parameters", .values w.parameters)
      ++ optionalPage ("settings", .values w.settings.raw)
      ++ w.nodes.map Node.page
      ++ optionalPage (edgesName, .routes w.edges)
      ++ w.sections.map sectionPage)

/-! ## The document is its pages -/

theorem writeEntries_eq (entries : Entries Value) : writeEntries entries = Body.write (.values entries) := rfl

theorem writeBlock_eq (name : String) (entries : Entries Value) :
    writeBlock name entries = (optionalPage (name, .values entries)).flatMap Page.write := by
  unfold writeBlock optionalPage
  cases entries with
  | nil => rfl
  | cons e es => simp [Body.keys, Page.write, writeEntries_eq]

theorem writeEdges_eq (edges : List (String × Routing)) :
    writeEdges edges = (optionalPage (edgesName, .routes edges)).flatMap Page.write := by
  unfold writeEdges optionalPage
  cases edges with
  | nil => rfl
  | cons e es => simp [Body.keys, Page.write, Body.write, edgesName]

theorem writeKey_known {k : String} (h : k ∈ ["name", "description", "start_node", "type", "label", "handler"]) :
    writeKey k = k.toList := by
  have hall : ["name", "description", "start_node", "type", "label", "handler"].all Document.isBareKey = true := by
    decide
  exact if_pos (List.all_eq_true.mp hall k h)

theorem writeNode_eq (n : Node) : writeNode n = n.page.write := by
  unfold writeNode Node.page Page.write Node.entries Node.handlerEntries
  cases n.handler with
  | none =>
    simp [Body.write, writeEntries, writeKey_known (k := "type") (by simp), writeKey_known (k := "label") (by simp),
      write_nameValue, Value.write]
  | some t =>
    simp [Body.write, writeEntries, writeKey_known (k := "type") (by simp), writeKey_known (k := "label") (by simp),
      writeKey_known (k := "handler") (by simp), write_nameValue, Value.write]

theorem write_headerPage (w : Workflow) :
    Page.write ("workflow", .values w.headerEntries) = '\n' :: ("[workflow]\n".toList
      ++ writeLine "name".toList (quote w.name) ++ writeLine "description".toList (quote w.description)
      ++ writeLine "start_node".toList (quote w.startNode) ++ writeEntries w.headerExtra) := by
  have hopen : writeHeader "workflow" = '\n' :: "[workflow]\n".toList := by decide
  have h1 := writeKey_known (k := "name") (by simp)
  have h2 := writeKey_known (k := "description") (by simp)
  have h3 := writeKey_known (k := "start_node") (by simp)
  rw [Page.write, hopen, ← writeEntries_eq, headerEntries, writeEntries]
  simp only [List.flatMap_cons, h1, h2, h3, Value.write, List.append_assoc, List.cons_append]
  rfl

theorem pages_write (w : Workflow) : w.pages.flatMap Page.write = '\n' :: w.write := by
  have hnodes : w.nodes.flatMap writeNode = (w.nodes.map Node.page).flatMap Page.write := by
    rw [List.flatMap_map]
    exact List.flatMap_congr fun n _ => writeNode_eq n
  have hsections : (w.sections.flatMap fun s => writeHeader s.name ++ writeEntries s.entries)
      = (w.sections.map sectionPage).flatMap Page.write := by
    rw [List.flatMap_map]
    rfl
  rw [pages, List.flatMap_cons, write_headerPage]
  unfold write
  rw [writeBlock_eq, writeBlock_eq, hnodes, writeEdges_eq, hsections]
  simp only [List.flatMap_append, List.append_assoc, List.cons_append]

/-! ## The pages of a readable workflow -/

theorem headerName_plain {name : String} (h : name ∈ plainNames) : HeaderName name := by
  have hall : ∀ name ∈ plainNames, HeaderName name := by decide
  exact hall name h

theorem toList_nodeName (id : String) : ("node." ++ id).toList = 'n' :: 'o' :: 'd' :: 'e' :: '.' :: id.toList := by
  simp

theorem headerName_node {id : String} (h : HeaderName id) : HeaderName ("node." ++ id) := by
  have hlast := h.trimmed.2
  obtain ⟨c, cs, hc⟩ := List.exists_cons_of_ne_nil (List.reverse_ne_nil_iff.mpr h.nonempty)
  refine ⟨⟨?_, ?_⟩, ?_, ?_⟩
  · rw [toList_nodeName, Text.stops_cons]
    decide
  · rw [hc] at hlast
    have happend : ("node." ++ id).toList.reverse = id.toList.reverse ++ ['.', 'e', 'd', 'o', 'n'] := by
      simp
    rw [happend, hc]
    exact Text.stops_cons.mpr (Text.stops_cons.mp hlast)
  · rw [toList_nodeName]
    exact List.cons_ne_nil _ _
  · rw [toList_nodeName]
    simpa using h.inside

theorem nodeId?_node {id : String} (h : HeaderName id) : nodeId? ("node." ++ id) = some id.toList := by
  have hlist : ("node." ++ id).toList = "node.".toList ++ id.toList := String.toList_append
  rw [nodeId?, hlist, if_pos (by simp), List.drop_left, Text.trim_of_trimmed h.trimmed]

theorem nodeName_not_mem_plain {id : String} (h : HeaderName id) : "node." ++ id ∉ plainNames := by
  intro hm
  have hall : plainNames.all (fun name => (nodeId? name).isNone) = true := by decide
  have hnone := List.all_eq_true.mp hall _ hm
  rw [nodeId?_node h] at hnone
  cases hnone

theorem readable_optionalPage {p q : Page} (h : p.Readable) (hq : q ∈ optionalPage p) : q.Readable := by
  unfold optionalPage at hq
  split at hq
  · cases hq
  · rw [List.mem_singleton.mp hq]
    exact h

theorem readable_plainPage {name : String} {entries : Entries Value} (hname : name ∈ plainNames)
    (hedges : name ≠ edgesName) (h : ReadableEntries [] entries) : Page.Readable (name, .values entries) :=
  ⟨headerName_plain hname, h.keys, hedges, h.values⟩

section
variable {w : Workflow} (h : w.Readable)
include h

theorem readable_headerEntries : ReadableEntries [] w.headerEntries := by
  have hf := h.header.free
  have h1 : "name" ∉ w.headerExtra.keys := fun hm => hf _ hm (by simp)
  have h2 : "description" ∉ w.headerExtra.keys := fun hm => hf _ hm (by simp)
  have h3 : "start_node" ∉ w.headerExtra.keys := fun hm => hf _ hm (by simp)
  have hk := h.header.keys
  refine ⟨?_, by simp, ?_⟩
  · unfold Entries.keys at *
    simp [headerEntries, h1, h2, h3, hk]
  · refine List.forall_mem_cons.mpr ⟨trivial, List.forall_mem_cons.mpr ⟨trivial, ?_⟩⟩
    exact List.forall_mem_cons.mpr ⟨trivial, h.header.values⟩

theorem readable_pages : ∀ p ∈ w.pages, p.Readable := by
  intro p hp
  simp only [pages, List.mem_cons, List.mem_append] at hp
  rcases hp with rfl | (((hp | hp) | hp) | hp) | hp
  · exact readable_plainPage (by simp [plainNames]) (by decide) (readable_headerEntries h)
  · exact readable_optionalPage (readable_plainPage (by simp [plainNames]) (by decide) h.parameters) hp
  · exact readable_optionalPage (readable_plainPage (by simp [plainNames]) (by decide) h.raw) hp
  · obtain ⟨n, hn, rfl⟩ := List.mem_map.mp hp
    have hread := h.nodes n hn
    have hedges : "node." ++ n.id ≠ edgesName := fun he =>
      nodeName_not_mem_plain hread.id (by rw [he]; simp [plainNames])
    exact ⟨headerName_node hread.id, Node.keys_entries hread, hedges, Node.canonical_entries hread⟩
  · have hedges : Page.Readable (edgesName, .routes w.edges) :=
      ⟨headerName_plain (by simp [plainNames]), h.edges.keys, rfl, h.edges.routings⟩
    exact readable_optionalPage hedges hp
  · obtain ⟨s, hs, rfl⟩ := List.mem_map.mp hp
    have hread := h.sections s hs
    have hedges : s.name ≠ edgesName := fun he => hread.plain (by rw [he]; simp [plainNames])
    exact ⟨hread.header, hread.entries.keys, hedges, hread.entries.values⟩

/-- Plain names, node names and the names of sections are told apart by their prefix. -/
theorem nodup_pages : (w.pages.map (·.1)).Nodup := by
  have hopt (p : Page) : ((optionalPage p).map (·.1)).Sublist [p.1] := by
    unfold optionalPage
    split
    · exact List.nil_sublist _
    · exact List.Sublist.refl _
  have hnodes : (w.nodes.map Node.page).map (·.1) = w.nodeIds.map ("node." ++ ·) := by
    simp [nodeIds, Node.page, Function.comp_def]
  have hsections : (w.sections.map sectionPage).map (·.1) = w.sections.map Section.name := by
    simp [sectionPage, Function.comp_def]
  have hsub : (w.pages.map (·.1)).Sublist (["workflow"] ++ (["parameters"] ++ ["settings"]
      ++ w.nodeIds.map ("node." ++ ·) ++ [edgesName] ++ w.sections.map Section.name)) := by
    simp only [pages, List.map_cons, List.map_append, hnodes, hsections]
    exact (((((hopt _).append (hopt _)).append (.refl _)).append (hopt _)).append (.refl _)).cons_cons _
  apply List.Nodup.sublist hsub
  have hplain : plainNames.Nodup := by decide
  have hinj : Function.Injective ("node." ++ · : String → String) := by
    intro a b hab
    have := congrArg String.toList hab
    simp only [toList_nodeName, List.cons.injEq, true_and] at this
    exact String.toList_injective this
  have hids := h.ids.map hinj
  have hnode : ∀ name ∈ w.nodeIds.map ("node." ++ ·), name ∉ plainNames ∧ nodeId? name ≠ none := by
    intro name hm
    obtain ⟨id, hid, rfl⟩ := List.mem_map.mp hm
    obtain ⟨n, hn, rfl⟩ := List.mem_map.mp hid
    have hname := (h.nodes n hn).id
    exact ⟨nodeName_not_mem_plain hname, by rw [nodeId?_node hname]; simp⟩
  have hsec : ∀ name ∈ w.sections.map Section.name, name ∉ plainNames ∧ nodeId? name = none := by
    intro name hm
    obtain ⟨s, hs, rfl⟩ := List.mem_map.mp hm
    exact ⟨(h.sections s hs).plain, (h.sections s hs).node⟩
  have hall : (plainNames ++ w.nodeIds.map ("node." ++ ·) ++ w.sections.map Section.name).Nodup := by
    rw [List.nodup_append, List.nodup_append]
    refine ⟨⟨hplain, hids, fun a ha b hb he => (hnode b hb).1 (he ▸ ha)⟩, h.names, ?_⟩
    intro a ha b hb he
    subst he
    rcases List.mem_append.mp ha with ha | ha
    · exact (hsec a hb).1 ha
    · exact (hnode a ha).2 (hsec a hb).2
  refine (List.Perm.nodup_iff ?_).mp hall
  simp only [plainNames, List.cons_append, List.nil_append, List.append_assoc]
  exact (((List.perm_middle.cons _).cons _).cons _).symm

end

/-! ## Pages assembled -/

theorem Draft.add_of_page {d d' : Draft} {p : Page} {b : Block} (hb : b.page = p) (h : d.add ⟨p.1, 0, p.2⟩ = .ok d') :
    d.add b = .ok d' := by
  subst hb
  exact add_eq_ok.mpr ((add_eq_ok (b := ⟨b.page.1, 0, b.page.2⟩)).mp h)

theorem foldlM_of_pages : ∀ {bs : List Block} {ps : List Page} {d d' : Draft}, bs.map Block.page = ps →
    ps.foldlM (fun d p => d.add ⟨p.1, 0, p.2⟩) d = .ok d' → bs.foldlM Draft.add d = .ok d'
  | [], _, d, d', rfl, h => h
  | b :: bs, _, d, d', rfl, h => by
    rw [List.map_cons, List.foldlM_cons] at h
    obtain ⟨d1, h1, h⟩ := bind_eq_ok.mp h
    rw [List.foldlM_cons, Draft.add_of_page rfl h1]
    exact foldlM_of_pages rfl h

def addPages (d : Draft) (ps : List Page) : Except FlowError Draft :=
  ps.foldlM (fun d p => d.add ⟨p.1, 0, p.2⟩) d

theorem addPages_append (d : Draft) (ps qs : List Page) :
    addPages d (ps ++ qs) = addPages d ps >>= fun d => addPages d qs := List.foldlM_append ..

theorem addPages_optional {d d' : Draft} {p : Page} (hadd : d.add ⟨p.1, 0, p.2⟩ = .ok d')
    (hempty : p.2.keys = [] → d' = d) :
    addPages d (optionalPage p) = .ok d' := by
  unfold optionalPage
  split
  · rename_i he
    rw [hempty (by simpa using he)]
    rfl
  · simp [addPages, List.foldlM_cons, hadd]

theorem entriesOf_readable {reserved : List String} {entries : Entries Value} (h : ReadableEntries reserved entries) :
    entriesOf (.values entries) = entries :=
  Entries.ofList_of_nodup h.keys

theorem addPages_nodes : ∀ {ns : List Node} (d : Draft), (∀ n ∈ ns, ReadableNode n) →
    addPages d (ns.map Node.page) = .ok { d with nodes := d.nodes ++ ns }
  | [], d, _ => by rw [List.append_nil]; rfl
  | n :: ns, d, h => by
    obtain ⟨hn, hrest⟩ := List.forall_mem_cons.mp h
    have hof : entriesOf (.values n.entries) = n.entries := Entries.ofList_of_nodup (Node.keys_entries hn)
    have hread : readNode (String.ofList n.id.toList) (entriesOf (.values n.entries)) = .ok n := by
      rw [hof, String.ofList_toList, Node.readNode_entries hn]
    have hadd : d.add ⟨n.page.1, 0, n.page.2⟩ = .ok { d with nodes := d.nodes ++ [n] } :=
      Draft.add_eq_ok.mpr (.node n.entries (nodeId?_node hn.id) hn.id.nonempty hread)
    have ih := addPages_nodes { d with nodes := d.nodes ++ [n] } hrest
    rw [List.append_assoc, List.singleton_append] at ih
    rw [List.map_cons, addPages, List.foldlM_cons, hadd]
    exact ih

theorem addPages_sections : ∀ {ss : List Section} (d : Draft), (∀ s ∈ ss, ReadableSection s) →
    addPages d (ss.map sectionPage) = .ok { d with sections := d.sections ++ ss }
  | [], d, _ => by rw [List.append_nil]; rfl
  | s :: ss, d, h => by
    obtain ⟨hs, hrest⟩ := List.forall_mem_cons.mp h
    have hadd : d.add ⟨(sectionPage s).1, 0, (sectionPage s).2⟩ = .ok { d with sections := d.sections ++ [s] } := by
      have hname : s.name ∉ ["workflow", "parameters", "settings"] := fun hm => hs.plain (List.mem_append_left [_] hm)
      have hadded := Draft.Added.plain (d := d) s.entries hname hs.node
      rw [entriesOf_readable hs.entries] at hadded
      exact Draft.add_eq_ok.mpr hadded
    have ih := addPages_sections { d with sections := d.sections ++ [s] } hrest
    rw [List.append_assoc, List.singleton_append] at ih
    rw [List.map_cons, addPages, List.foldlM_cons, hadd]
    exact ih

def draft (w : Workflow) : Draft :=
  ⟨some w.headerEntries, w.parameters, w.settings, w.nodes, w.edges, w.sections⟩

section
variable {w : Workflow} (h : w.Readable)
include h

theorem addPages_pages : addPages .empty w.pages = .ok w.draft := by
  have hheader : Draft.empty.add ⟨"workflow", 0, .values w.headerEntries⟩
      = .ok { Draft.empty with header := some w.headerEntries } := by
    simp only [Draft.add, if_true, entriesOf_readable (readable_headerEntries h)]
  let d1 : Draft := { Draft.empty with header := some w.headerEntries }
  let d2 : Draft := { d1 with parameters := w.parameters }
  let d3 : Draft := { d2 with settings := w.settings }
  let d4 : Draft := { d3 with nodes := w.nodes }
  let d5 : Draft := { d4 with edges := w.edges }
  have h2 : addPages d1 (optionalPage ("parameters", .values w.parameters)) = .ok d2 := by
    apply addPages_optional
    · simp only [Draft.add, entriesOf_readable h.parameters]
      rfl
    · intro he
      have hnil : w.parameters = [] := List.map_eq_nil_iff.mp he
      simp only [d2, hnil]
      rfl
  have h3 : addPages d2 (optionalPage ("settings", .values w.settings.raw)) = .ok d3 := by
    apply addPages_optional
    · simp only [Draft.add, entriesOf_readable h.raw, ← h.settings]
      rfl
    · intro he
      have hnil : w.settings.raw = [] := List.map_eq_nil_iff.mp he
      have hs := h.settings
      rw [hnil] at hs
      simp only [d3, hs]
      rfl
  have h4 : addPages d3 (w.nodes.map Node.page) = .ok d4 := addPages_nodes d3 h.nodes
  have h5 : addPages d4 (optionalPage (edgesName, .routes w.edges)) = .ok d5 := by
    apply addPages_optional rfl
    intro he
    have hnil : w.edges = [] := List.map_eq_nil_iff.mp he
    simp only [d5, hnil]
    rfl
  have h6 : addPages d5 (w.sections.map sectionPage) = .ok w.draft := addPages_sections d5 h.sections
  rw [pages, addPages, List.foldlM_cons, hheader, ok_bind]
  show addPages d1 _ = _
  rw [addPages_append, addPages_append, addPages_append, addPages_append, h2, ok_bind, h3, ok_bind, h4, ok_bind, h5,
    ok_bind, h6]

theorem finish_draft : w.draft.finish = .ok w := by
  have hstart : startNodeOf w.headerEntries = .ok w.startNode := by
    have hget : Entries.get? w.headerEntries "start_node" = some (.string w.startNode) := by
      simp [headerEntries, Entries.get?]
    simp only [startNodeOf, hget, Value.asText?]
  have hname : takeText "name" w.headerEntries
      = .ok (w.name, ("description", .string w.description) :: ("start_node", .string w.startNode) :: w.headerExtra) := by
    simp [takeText, headerEntries, Entries.take, Value.asText?]
  have hdescription : takeText "description"
      (("description", .string w.description) :: ("start_node", .string w.startNode) :: w.headerExtra)
      = .ok (w.description, ("start_node", .string w.startNode) :: w.headerExtra) := by
    simp [takeText, Entries.take, Value.asText?]
  have herase : Entries.erase (("start_node", Value.string w.startNode) :: w.headerExtra) "start_node" =
      w.headerExtra := by
    rw [Entries.erase_cons, if_pos rfl]
  obtain ⟨ms, hms, -, -, hall⟩ := addNodes_spec w.nodes { w with nodes := [] } List.nodup_nil
  have hnodes : ms = w.nodes := hall (by rw [List.nil_append]; exact h.ids)
  simp only [Draft.finish, draft, ok_bind, hstart, hname, hdescription, herase, hms, hnodes, List.nil_append]

theorem parse_of_readable : parse w.document = .ok w := by
  obtain ⟨bs, hbs, hpages⟩ := Document.blocks_written (nodup_pages h) (readable_pages h) (pages_write w)
  rw [parse, document, hbs]
  simp only [ofBlocks, foldlM_of_pages hpages (addPages_pages h), ok_bind, finish_draft h]

end

/-- Parsing, writing and parsing again changes nothing. -/
theorem parse_document {text : String} {w : Workflow} (h : parse text = .ok w) : parse w.document = .ok w :=
  parse_of_readable (parse_readable h)

def greeting : String :=
  "[workflow]\nstart_node = ask\nowner = 'us'\n[parameters]\nrate = 2.50\nnames = a, \"b\"\n"
    ++ "[settings]\ndebug = true\n[node.ask]\ntype = echo\nat = \x7bx = [1, null]\x7d\n"
    ++ "[node.tell]\ntype = \"echo it\"\n[edges]\nask = [tell, ask]\ntell = tell\n[env]\nHOME = home\n"

set_option maxRecDepth 20000 in
theorem parse_document_greeting : ∃ w, parse greeting = .ok w ∧ parse w.document = .ok w := by
  have hok : (parse greeting).isOk = true := by decide +kernel
  cases hw : parse greeting with
  | error e => rw [hw] at hok; cases hok
  | ok w => exact ⟨w, rfl, parse_document hw⟩

end Workflow

end FlowEngine
