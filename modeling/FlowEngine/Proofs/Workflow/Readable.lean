import Mathlib
import FlowEngine.Proofs.Document.Blocks
import FlowEngine.Proofs.Entries
import FlowEngine.Workflow.Assembly

/-!
# Workflows that documents describe

What a document describes is readable (`parse_readable`): its names can stand in
headers, its maps have distinct keys with canonical values, and no key with a
meaning of its own is left among the entries without one.
-/

namespace FlowEngine

open Document (Value Block Body Page HeaderName ReadableBlocks ReadableRouting edgesName)

/-! ## Readable parts -/

structure ReadableEntries (reserved : List String) (entries : Entries Value) : Prop where
  keys : entries.keys.Nodup
  free : ∀ k ∈ entries.keys, k ∉ reserved
  values : ∀ e ∈ entries, e.2.Canonical

theorem ReadableEntries.nil (reserved : List String) : ReadableEntries reserved [] :=
  ⟨List.nodup_nil, by simp [Entries.keys], by simp⟩

theorem ReadableEntries.erase {reserved : List String} {entries : Entries Value} (h : ReadableEntries reserved entries)
    (key : String) : ReadableEntries (key :: reserved) (entries.erase key) where
  keys := h.keys.sublist (Entries.keys_erase_sublist entries key)
  free := fun k hk hm => by
    rcases List.mem_cons.mp hm with rfl | hm
    · exact Entries.not_mem_keys_erase k h.keys hk
    · exact h.free k ((Entries.keys_erase_sublist entries key).subset hk) hm
  values := fun e he => h.values e ((Entries.erase_sublist entries key).subset he)

theorem ReadableEntries.mono {reserved free : List String} {entries : Entries Value}
    (h : ReadableEntries reserved entries) (hsub : free ⊆ reserved) : ReadableEntries free entries :=
  ⟨h.keys, fun k hk hm => h.free k hk (hsub hm), h.values⟩

/-- The id of a node can stand in a header behind the prefix. -/
structure ReadableNode (n : Node) : Prop where
  id : HeaderName n.id
  config : ReadableEntries ["type", "label", "handler"] n.config

def plainNames : List String := ["workflow", "parameters", "settings", edgesName]

structure ReadableSection (s : Section) : Prop where
  header : HeaderName s.name
  plain : s.name ∉ plainNames
  node : Workflow.nodeId? s.name = none
  entries : ReadableEntries [] s.entries

structure ReadableEdges (edges : List (String × Routing)) : Prop where
  keys : (edges.map (·.1)).Nodup
  routings : ∀ e ∈ edges, ReadableRouting e.2

/-- What can be written down and read back. -/
structure Workflow.Readable (w : Workflow) : Prop where
  header : ReadableEntries ["start_node", "description", "name"] w.headerExtra
  parameters : ReadableEntries [] w.parameters
  settings : w.settings = .ofEntries w.settings.raw
  raw : ReadableEntries [] w.settings.raw
  ids : w.nodeIds.Nodup
  nodes : ∀ n ∈ w.nodes, ReadableNode n
  edges : ReadableEdges w.edges
  names : (w.sections.map Section.name).Nodup
  sections : ∀ s ∈ w.sections, ReadableSection s

namespace Workflow

/-! ## What a draft becomes -/

theorem nodeId?_plain : ∀ name ∈ plainNames, nodeId? name = none := by decide

inductive Draft.Added (d : Draft) : Page → Draft → Prop
  | header (entries : List (String × Value)) :
    Added d ("workflow", .values entries) { d with header := some (entriesOf (.values entries)) }
  | parameters (entries : List (String × Value)) :
    Added d ("parameters", .values entries) { d with parameters := entriesOf (.values entries) }
  | settings (entries : List (String × Value)) :
    Added d ("settings", .values entries) { d with settings := .ofEntries (entriesOf (.values entries)) }
  | node {name : String} {id : List Char} (entries : List (String × Value)) {n : Node} (hid : nodeId? name = some id)
    (hne : id ≠ []) (hn : readNode (String.ofList id) (entriesOf (.values entries)) = .ok n) :
    Added d (name, .values entries) { d with nodes := d.nodes ++ [n] }
  | edges (name : String) (edges : List (String × Routing)) :
    Added d (name, .routes edges) { d with edges := d.edges ++ edges }
  | plain {name : String} (entries : List (String × Value)) (hname : name ∉ ["workflow", "parameters", "settings"])
    (hid : nodeId? name = none) :
    Added d (name, .values entries) { d with sections := d.sections ++ [⟨name, entriesOf (.values entries)⟩] }

theorem Draft.added_of_add {d d' : Draft} {b : Block} (h : d.add b = .ok d') : d.Added b.page d' := by
  obtain ⟨name, line, body⟩ := b
  cases body with
  | routes edges =>
    cases h
    exact .edges name edges
  | values entries =>
    simp only [add] at h
    by_cases h1 : name = "workflow"
    · subst h1
      cases h
      exact .header entries
    by_cases h2 : name = "parameters"
    · subst h2
      cases h
      exact .parameters entries
    by_cases h3 : name = "settings"
    · subst h3
      cases h
      exact .settings entries
    simp only [h1, h2, h3, if_false] at h
    split at h
    · cases h
    · rename_i id hne hid
      split at h
      · rename_i n hn
        cases h
        exact .node entries hid hne hn
      · cases h
    · rename_i hid
      cases h
      exact .plain entries (by simp [h1, h2, h3]) hid

theorem Draft.add_of_added {d d' : Draft} {b : Block} (h : d.Added b.page d') : d.add b = .ok d' := by
  obtain ⟨name, line, body⟩ := b
  unfold add
  cases h with
  | header entries => rfl
  | parameters entries => rfl
  | settings entries => rfl
  | edges name edges => rfl
  | node entries hid hne hn =>
    have hname : name ∉ plainNames := by
      intro hm
      rw [nodeId?_plain name hm] at hid
      cases hid
    simp only [plainNames, List.mem_cons, not_or] at hname
    obtain ⟨c, cs, rfl⟩ := List.exists_cons_of_ne_nil hne
    simp only [hname, if_false, hid, hn]
  | plain entries hname hid =>
    simp only [List.mem_cons, not_or] at hname
    simp only [hname, if_false, hid]

theorem Draft.add_eq_ok {d d' : Draft} {b : Block} : d.add b = .ok d' ↔ d.Added b.page d' :=
  ⟨added_of_add, add_of_added⟩

/-! ## Drafts -/

structure Draft.Readable (names : List String) (d : Draft) : Prop where
  header : ∀ h ∈ d.header, ReadableEntries [] h
  parameters : ReadableEntries [] d.parameters
  settings : d.settings = .ofEntries d.settings.raw
  raw : ReadableEntries [] d.settings.raw
  nodes : ∀ n ∈ d.nodes, ReadableNode n
  edges : ReadableEdges d.edges
  edgesRead : d.edges ≠ [] → edgesName ∈ names
  sections : ∀ s ∈ d.sections, ReadableSection s
  distinct : (d.sections.map Section.name).Nodup
  sectionsRead : ∀ s ∈ d.sections, s.name ∈ names

theorem Draft.readable_empty : Draft.empty.Readable [] where
  header := by simp [Draft.empty]
  parameters := .nil _
  settings := rfl
  raw := .nil _
  nodes := by simp [Draft.empty]
  edges := ⟨List.nodup_nil, by simp [Draft.empty]⟩
  edgesRead := fun h => absurd rfl h
  sections := by simp [Draft.empty]
  distinct := List.nodup_nil
  sectionsRead := by simp [Draft.empty]

theorem Draft.Readable.mono {names names' : List String} {d : Draft} (h : d.Readable names) (hsub : names ⊆ names') :
    d.Readable names' :=
  { h with
    edgesRead := fun he => hsub (h.edgesRead he)
    sectionsRead := fun s hs => hsub (h.sectionsRead s hs) }

theorem readable_entriesOf {name : String} {entries : List (String × Value)}
    (h : Page.Readable (name, .values entries)) : ReadableEntries [] (entriesOf (.values entries)) := by
  have hkeys : (Entries.keys entries).Nodup := h.keys
  have hof : entriesOf (.values entries) = entries := Entries.ofList_of_nodup hkeys
  rw [hof]
  exact ⟨hkeys, by simp, h.body.2⟩

/-- The id in a header is trimmed, so it can stand in a header again. -/
theorem readable_nodeId {name : String} (h : HeaderName name) {id : List Char} (hid : nodeId? name = some id)
    (hne : id ≠ []) : HeaderName (String.ofList id) := by
  unfold nodeId? at hid
  split at hid
  · cases hid
    refine ⟨by rw [String.toList_ofList]; exact Text.trimmed_trim _, by rwa [String.toList_ofList], ?_⟩
    intro c hc
    rw [String.toList_ofList] at hc
    exact h.inside c (List.mem_of_mem_drop (Text.mem_of_mem_trim hc))
  · cases hid

theorem readNode_parts {id : String} {entries : Entries Value} {n : Node} (h : readNode id entries = .ok n) :
    n.id = id ∧ n.config = Entries.erase ((entries.erase "type").erase "label") "handler" := by
  simp only [readNode, Entries.take_eq] at h
  split at h
  · cases h
  split at h
  · cases h
  split at h
  · cases h; exact ⟨rfl, rfl⟩
  · cases h; exact ⟨rfl, rfl⟩
  split at h
  · cases h
  · cases h; exact ⟨rfl, rfl⟩

theorem readNode_readable {id : String} (hid : HeaderName id) {entries : Entries Value}
    (h : ReadableEntries [] entries) {n : Node} (hn : readNode id entries = .ok n) : ReadableNode n := by
  obtain ⟨h1, h2⟩ := readNode_parts hn
  refine ⟨h1 ▸ hid, h2 ▸ (((h.erase "type").erase "label").erase "handler").mono ?_⟩
  simp

theorem Draft.Readable.add {names : List String} {d d' : Draft} {b : Block} (hd : d.Readable names)
    (hb : b.page.Readable) (hnew : b.name ∉ names) (h : d.add b = .ok d') : d'.Readable (b.name :: names) := by
  have hd' := hd.mono (List.subset_cons_self b.name names)
  have hadded := Draft.add_eq_ok.mp h
  obtain ⟨name, line, body⟩ := b
  cases hadded with
  | header entries =>
    refine { hd' with header := ?_ }
    intro header hh
    cases hh
    exact readable_entriesOf hb
  | parameters entries => exact { hd' with parameters := readable_entriesOf hb }
  | settings entries => exact { hd' with settings := rfl, raw := readable_entriesOf hb }
  | node entries hid hne hn =>
    refine { hd' with nodes := ?_ }
    intro m hm
    rcases List.mem_append.mp hm with hm | hm
    · exact hd.nodes m hm
    · rw [List.mem_singleton.mp hm]
      exact readNode_readable (readable_nodeId hb.header hid hne) (readable_entriesOf hb) hn
  | edges name edges =>
    have hname : name = edgesName := hb.body.1
    have hnone : d.edges = [] := by
      by_contra he
      exact hnew (hname ▸ hd.edgesRead he)
    refine { hd' with edges := ?_, edgesRead := fun _ => by simp [hname] }
    show ReadableEdges (d.edges ++ edges)
    rw [hnone]
    exact ⟨hb.keys, hb.body.2⟩
  | plain entries hname hid =>
    have hs : ReadableSection ⟨name, entriesOf (.values entries)⟩ := by
      refine ⟨hb.header, ?_, hid, readable_entriesOf hb⟩
      simp only [plainNames, List.mem_cons, List.not_mem_nil, or_false, not_or] at hname ⊢
      exact ⟨hname.1, hname.2.1, hname.2.2, hb.body.1⟩
    refine { hd' with sections := ?_, distinct := ?_, sectionsRead := ?_ }
    · intro s hs'
      rcases List.mem_append.mp hs' with hm | hm
      · exact hd.sections s hm
      · rw [List.mem_singleton.mp hm]
        exact hs
    · show ((d.sections ++ [_]).map Section.name).Nodup
      rw [List.map_append, List.nodup_append]
      refine ⟨hd.distinct, List.nodup_singleton _, ?_⟩
      intro m hm k hk
      obtain ⟨s, hs1, rfl⟩ := List.mem_map.mp hm
      rw [List.mem_singleton.mp hk]
      rintro (he : s.name = name)
      exact hnew (he ▸ hd.sectionsRead s hs1)
    · intro s hs'
      rcases List.mem_append.mp hs' with hm | hm
      · exact hd'.sectionsRead s hm
      · rw [List.mem_singleton.mp hm]
        exact List.mem_cons_self

theorem Draft.Readable.addAll : ∀ {bs : List Block} {names : List String} {d d' : Draft}, d.Readable names →
    (names ++ bs.map Block.name).Nodup → (∀ b ∈ bs, b.page.Readable) → bs.foldlM Draft.add d = .ok d' →
    ∃ names', d'.Readable names'
  | [], names, d, d', hd, _, _, h => by
    cases h
    exact ⟨names, hd⟩
  | b :: bs, names, d, d', hd, hn, hb, h => by
    rw [List.foldlM_cons] at h
    obtain ⟨d1, h1, h⟩ := bind_eq_ok.mp h
    obtain ⟨hb1, hrest⟩ := List.forall_mem_cons.mp hb
    have hnew : b.name ∉ names := fun hm => (List.nodup_append.mp hn).2.2 _ hm b.name (by simp) rfl
    exact addAll (hd.add hb1 hnew h1)
      ((List.perm_middle.nodup_iff).mp hn) hrest h

/-! ## The finished workflow -/

theorem takeText_rest {key name : String} {header rest : Entries Value} (h : takeText key header = .ok (name, rest)) :
    rest = header.erase key := by
  simp only [takeText, Entries.take_eq] at h
  split at h
  · cases h; rfl
  · cases h; rfl
  · split at h
    · cases h
    · cases h; rfl

theorem hasNode_iff {w : Workflow} {id : String} : w.hasNode id = true ↔ id ∈ w.nodeIds := by
  simp [hasNode, node?, nodeIds, List.find?_isSome]

theorem addNodes_spec : ∀ (ns : List Node) (w : Workflow), w.nodeIds.Nodup →
    ∃ ms, ns.foldl (fun w n => (w.addNode n).2) w = { w with nodes := w.nodes ++ ms } ∧
      ((w.nodes ++ ms).map Node.id).Nodup ∧ (∀ m ∈ ms, m ∈ ns) ∧
      (((w.nodes ++ ns).map Node.id).Nodup → ms = ns)
  | [], w, hw => ⟨[], by rw [List.append_nil]; rfl, by rwa [List.append_nil], by simp, fun _ => rfl⟩
  | n :: ns, w, hw => by
    rw [List.foldl_cons, addNode]
    by_cases hn : w.hasNode n.id = true
    · rw [if_pos hn]
      obtain ⟨ms, h1, h2, h3, -⟩ := addNodes_spec ns w hw
      refine ⟨ms, h1, h2, fun m hm => List.mem_cons_of_mem _ (h3 m hm), ?_⟩
      intro hnd
      rw [List.map_append, List.nodup_append] at hnd
      exact absurd rfl (hnd.2.2 n.id (hasNode_iff.mp hn) n.id (by simp))
    · rw [if_neg hn]
      have hw' : ({ w with nodes := w.nodes ++ [n] } : Workflow).nodeIds.Nodup := by
        rw [nodeIds, List.map_append, List.nodup_append]
        refine ⟨hw, List.nodup_singleton _, ?_⟩
        intro a ha b hb
        rw [List.mem_singleton.mp hb]
        rintro rfl
        exact hn (hasNode_iff.mpr ha)
      obtain ⟨ms, h1, h2, h3, h4⟩ := addNodes_spec ns _ hw'
      simp only [List.append_assoc, List.singleton_append] at h1 h2 h4
      refine ⟨n :: ms, h1, h2, ?_, fun hnd => by rw [h4 hnd]⟩
      intro m hm
      rcases List.mem_cons.mp hm with rfl | hm
      · simp
      · exact List.mem_cons_of_mem _ (h3 m hm)

/-- What a draft is finished to: its nodes are added to a workflow without nodes, and the header
is left with the entries that have no meaning of their own. -/
theorem Draft.finish_eq_addNodes {d : Draft} {w : Workflow} (h : d.finish = .ok w) :
    ∃ header name description startNode, d.header = some header ∧
      w = d.nodes.foldl (fun w n => (w.addNode n).2)
        { name, description, startNode, parameters := d.parameters, settings := d.settings, nodes := [],
          edges := d.edges, sections := d.sections,
          headerExtra := Entries.erase ((header.erase "name").erase "description") "start_node" } := by
  cases hh : d.header with
  | none =>
    simp only [Draft.finish, hh] at h
    cases h
  | some header =>
    simp only [Draft.finish, hh, ok_bind] at h
    obtain ⟨startNode, -, h⟩ := bind_eq_ok.mp h
    obtain ⟨⟨name, rest⟩, hname, h⟩ := bind_eq_ok.mp h
    obtain ⟨⟨description, rest'⟩, hdescription, h⟩ := bind_eq_ok.mp h
    have hrest := takeText_rest hname
    have hrest' := takeText_rest hdescription
    subst hrest hrest'
    cases h
    exact ⟨header, name, description, startNode, rfl, rfl⟩

theorem Draft.Readable.finish {names : List String} {d : Draft} (hd : d.Readable names) {w : Workflow}
    (h : d.finish = .ok w) : w.Readable := by
  obtain ⟨header, name, description, startNode, hh, rfl⟩ := finish_eq_addNodes h
  have hread : ReadableEntries [] header := hd.header _ hh
  obtain ⟨ms, hms, hids, hmem, -⟩ := addNodes_spec d.nodes
    { name, description, startNode, parameters := d.parameters, settings := d.settings, nodes := [],
      edges := d.edges, sections := d.sections,
      headerExtra := Entries.erase ((header.erase "name").erase "description") "start_node" } List.nodup_nil
  rw [hms]
  exact
    { header := ((hread.erase "name").erase "description").erase "start_node"
      parameters := hd.parameters
      settings := hd.settings
      raw := hd.raw
      ids := hids
      nodes := fun n hn => hd.nodes n (hmem n (by simpa using hn))
      edges := hd.edges
      names := hd.distinct
      sections := hd.sections }

theorem parse_eq_ok {text : String} {w : Workflow} : parse text = .ok w ↔
    ∃ bs d, Document.blocks text = .ok bs ∧ bs.foldlM Draft.add .empty = .ok d ∧ d.finish = .ok w := by
  unfold parse
  constructor
  · intro h
    split at h
    · rename_i bs hb
      obtain ⟨d, hd, h⟩ := bind_eq_ok.mp h
      split at h
      · rename_i w' hf
        cases h
        exact ⟨bs, d, hb, hd, hf⟩
      · cases h
    · cases h
  · rintro ⟨bs, d, hb, hd, hf⟩
    simp only [hb, ofBlocks, hd, ok_bind, hf]

theorem parse_readable {text : String} {w : Workflow} (h : parse text = .ok w) : w.Readable := by
  obtain ⟨bs, d, hb, hd, hf⟩ := parse_eq_ok.mp h
  obtain ⟨hnames, hpages⟩ := Document.blocks_readable hb
  obtain ⟨names, hread⟩ := Draft.readable_empty.addAll hnames hpages hd
  exact hread.finish hf

end Workflow

end FlowEngine
