import Mathlib
import FlowEngine.Proofs.Workflow.Readable

/-!
# The nodes of a document

Each section named for a node states one, in order (`Draft.addAll_nodes`), and a
workflow takes of the nodes with one id the first (`addNodes_nodes`). Two sections
may state one node although their names differ, for blanks around an id do not
count. So the nodes are those of the sections one by one just if no id is stated
twice (`parse_nodes`).
-/

namespace FlowEngine

open Document (Value Page Block Body ReadableBlocks)

namespace Workflow

/-! ## What a section states -/

def statedEntries (p : Page) : Entries Value :=
  match p.2 with
  | .values entries => entries
  | .routes _ => []

def fieldKeys : List String := ["type", "label", "handler"]

def nodePages (ps : List Page) : List Page := ps.filter fun p => (nodeId? p.1).isSome

end Workflow

open Workflow (statedEntries fieldKeys nodePages nodeId?)

/-- The section states the node: the id is the trimmed name behind the prefix, each field is
the entry of its key, and all other entries are the configuration. -/
structure Node.StatedBy (n : Node) (p : Page) : Prop where
  id : ∃ name, p.1 = "node." ++ name ∧ n.id = Text.trimmed name
  kind : ((statedEntries p).get? "type").bind Value.asText? = some n.kind
  label : n.label = ((statedEntries p).get? "label").elim n.id fun v => v.asText?.getD v.text
  handler : n.handler = ((statedEntries p).get? "handler").bind Value.asText?
  handlerText : ∀ v, (statedEntries p).get? "handler" = some v → v = .null ∨ (v.asText?).isSome = true
  config : n.config = (statedEntries p).filter fun e => !fieldKeys.contains e.1

namespace Workflow

theorem nodeId?_eq_some {name : String} {cs : List Char} (h : nodeId? name = some cs) :
    ∃ rest, name = "node." ++ rest ∧ String.ofList cs = Text.trimmed rest := by
  unfold nodeId? at h
  split at h
  · rename_i hprefix
    cases h
    obtain ⟨rest, hrest⟩ := List.isPrefixOf_iff_prefix.mp hprefix
    have hlist : (String.ofList rest).toList = rest := String.toList_ofList
    refine ⟨String.ofList rest, ?_, ?_⟩
    · have happend : ("node." ++ String.ofList rest).toList = "node.".toList ++ (String.ofList rest).toList :=
        String.toList_append
      apply String.toList_injective
      rw [happend, hlist, hrest]
    · rw [← hrest, List.drop_left, Text.trimmed, hlist]
  · cases h

theorem readNode_fields {id : String} {entries : Entries Value} {n : Node} (h : readNode id entries = .ok n) :
    (entries.get? "type").bind Value.asText? = some n.kind ∧
    n.label = (entries.get? "label").elim id (fun v => v.asText?.getD v.text) ∧
    n.handler = (entries.get? "handler").bind Value.asText? ∧
    ∀ v, entries.get? "handler" = some v → v = .null ∨ (v.asText?).isSome = true := by
  have hlabel : (entries.erase "type").get? "label" = entries.get? "label" :=
    Entries.get?_erase_of_ne _ (by decide)
  have hhandler : ((entries.erase "type").erase "label").get? "handler" = entries.get? "handler" := by
    rw [Entries.get?_erase_of_ne _ (by decide), Entries.get?_erase_of_ne _ (by decide)]
  simp only [readNode, Entries.take_eq, hlabel, hhandler] at h
  split at h
  · cases h
  rename_i v hv
  split at h
  · cases h
  rename_i kind hkind
  rw [hv]
  split at h
  · rename_i hnone
    cases h
    rw [hnone]
    exact ⟨hkind, by cases entries.get? "label" <;> rfl, rfl, by simp⟩
  · rename_i hnull
    cases h
    rw [hnull]
    exact ⟨hkind, by cases entries.get? "label" <;> rfl, rfl, by simp⟩
  · rename_i u _ hu
    split at h
    · cases h
    rename_i handler htext
    cases h
    rw [hu]
    exact ⟨hkind, by cases entries.get? "label" <;> rfl, htext.symm, by simp [htext]⟩

theorem readNode_stated {name : String} {cs : List Char} (hid : nodeId? name = some cs) {entries : Entries Value}
    (hkeys : entries.keys.Nodup) {n : Node} (hn : readNode (String.ofList cs) entries = .ok n) :
    n.StatedBy (name, .values entries) := by
  obtain ⟨rest, hname, hrest⟩ := nodeId?_eq_some hid
  obtain ⟨hnid, hconfig⟩ := readNode_parts hn
  obtain ⟨hkind, hlabel, hhandler, htext⟩ := readNode_fields hn
  have hkeys' := hkeys.sublist (Entries.keys_erase_sublist entries "type")
  have hkeys'' := hkeys'.sublist (Entries.keys_erase_sublist (entries.erase "type") "label")
  refine ⟨⟨rest, hname, hnid.trans hrest⟩, hkind, by rw [hnid]; exact hlabel, hhandler, htext, ?_⟩
  rw [hconfig, Entries.erase_eq_filter hkeys'', Entries.erase_eq_filter hkeys', Entries.erase_eq_filter hkeys,
    List.filter_filter, List.filter_filter]
  apply List.filter_congr
  intro e _
  rw [Bool.eq_iff_iff]
  simp only [fieldKeys, Bool.and_eq_true, bne_iff_ne, ne_eq, Bool.not_eq_true', ← Bool.not_eq_true,
    List.contains_iff_mem, List.mem_cons, List.not_mem_nil, or_false, not_or]
  tauto

/-! ## What a workflow has of its sections -/

theorem Draft.Added.nodes {d d' : Draft} {p : Page} (hp : p.Readable) (h : d.Added p d') :
    ∃ ns, d'.nodes = d.nodes ++ ns ∧ List.Forall₂ Node.StatedBy ns (nodePages [p]) := by
  have hplain {d' : Draft} (hnone : nodeId? p.1 = none) (hnodes : d'.nodes = d.nodes) :
      ∃ ns, d'.nodes = d.nodes ++ ns ∧ List.Forall₂ Node.StatedBy ns (nodePages [p]) :=
    ⟨[], by rw [hnodes, List.append_nil], by simp [nodePages, hnone]⟩
  cases h with
  | header entries => exact hplain (nodeId?_plain "workflow" (by simp [plainNames])) rfl
  | parameters entries => exact hplain (nodeId?_plain "parameters" (by simp [plainNames])) rfl
  | settings entries => exact hplain (nodeId?_plain "settings" (by simp [plainNames])) rfl
  | @node name id entries n hid hne hn =>
    have hkeys : (Entries.keys entries).Nodup := hp.keys
    have hof : entriesOf (.values entries) = entries := Entries.ofList_of_nodup hkeys
    rw [hof] at hn
    refine ⟨[n], rfl, ?_⟩
    simpa [nodePages, hid] using readNode_stated hid hkeys hn
  | edges name edges =>
    have hname : name = Document.edgesName := hp.body.1
    exact hplain (nodeId?_plain name (by simp [plainNames, hname])) rfl
  | plain entries hname hid => exact hplain hid rfl

theorem Draft.addAll_nodes : ∀ {bs : List Block} {d d' : Draft}, (∀ b ∈ bs, b.page.Readable) →
    bs.foldlM Draft.add d = .ok d' →
    ∃ ns, d'.nodes = d.nodes ++ ns ∧ List.Forall₂ Node.StatedBy ns (nodePages (bs.map Block.page))
  | [], d, d', _, h => by
    cases h
    exact ⟨[], (List.append_nil _).symm, .nil⟩
  | b :: bs, d, d', hb, h => by
    obtain ⟨d1, h1, h⟩ := bind_eq_ok.mp h
    obtain ⟨hb1, hrest⟩ := List.forall_mem_cons.mp hb
    obtain ⟨ns, hns, hstated⟩ := (Draft.add_eq_ok.mp h1).nodes hb1
    obtain ⟨ms, hms, hmstated⟩ := addAll_nodes hrest h
    refine ⟨ns ++ ms, by rw [hms, hns, List.append_assoc], ?_⟩
    have happend : nodePages ((b :: bs).map Block.page) = nodePages [b.page] ++ nodePages (bs.map Block.page) := by
      rw [List.map_cons, ← List.singleton_append, nodePages, List.filter_append]
      rfl
    rw [happend]
    exact List.rel_append hstated hmstated

/-- Of the nodes with one id the first. -/
def firstNodes (ns : List Node) : List Node := ns.eraseDupsBy fun a b => a.id == b.id

theorem addNodes_nodes : ∀ (ns : List Node) (w : Workflow),
    (ns.foldl (fun w n => (w.addNode n).2) w).nodes = w.nodes ++ firstNodes (ns.filter fun n => !w.hasNode n.id)
  | [], w => (List.append_nil _).symm
  | n :: ns, w => by
    rw [List.foldl_cons, addNodes_nodes ns, addNode]
    by_cases hn : w.hasNode n.id = true
    · rw [if_pos hn, List.filter_cons_of_neg (by simp [hn])]
    · rw [if_neg hn, List.filter_cons_of_pos (by simp [hn]), firstNodes, firstNodes, List.eraseDupsBy_cons,
        List.filter_filter, List.append_assoc, List.singleton_append]
      congr 3
      apply List.filter_congr
      intro m _
      have hadd : hasNode { w with nodes := w.nodes ++ [n] } m.id = (w.hasNode m.id || m.id == n.id) := by
        rw [Bool.eq_iff_iff, Bool.or_eq_true, hasNode_iff, hasNode_iff]
        simp [nodeIds]
      rw [hadd]
      cases w.hasNode m.id <;> cases m.id == n.id <;> rfl

theorem firstNodes_sublist (ns : List Node) : (firstNodes ns).Sublist ns := by
  match ns with
  | [] => exact List.nil_sublist _
  | n :: ns =>
    have hlen := List.length_filter_le (fun m => decide ((m.id == n.id) = false)) ns
    rw [firstNodes, List.eraseDupsBy_cons]
    exact ((firstNodes_sublist _).trans List.filter_sublist).cons_cons n
termination_by ns.length
decreasing_by simp only [List.length_cons]; omega

theorem firstNodes_of_nodup : ∀ {ns : List Node}, (ns.map Node.id).Nodup → firstNodes ns = ns
  | [], _ => rfl
  | n :: ns, h => by
    obtain ⟨hn, hrest⟩ := List.nodup_cons.mp h
    have hkept : (ns.filter fun m => decide ((m.id == n.id) = false)) = ns := by
      apply List.filter_eq_self.mpr
      intro m hm
      have hne : m.id ≠ n.id := fun he => hn (he ▸ List.mem_map_of_mem hm)
      simpa using hne
    rw [firstNodes, List.eraseDupsBy_cons, hkept]
    exact congrArg (n :: ·) (firstNodes_of_nodup hrest)

theorem finish_nodes {d : Draft} {w : Workflow} (h : d.finish = .ok w) : w.nodes = firstNodes d.nodes := by
  obtain ⟨header, name, description, startNode, -, rfl⟩ := Draft.finish_eq_addNodes h
  rw [addNodes_nodes, List.nil_append]
  congr 1
  exact List.filter_eq_self.mpr fun _ _ => rfl

theorem stated_ids {ns : List Node} {ps : List Page} (h : List.Forall₂ Node.StatedBy ns ps) :
    ps.filterMap (fun p => nodeId? p.1) = (ns.map Node.id).map String.toList := by
  induction h with
  | nil => rfl
  | @cons n p ns ps hn _ ih =>
    obtain ⟨rest, hname, hid⟩ := hn.id
    have hlist : ("node." ++ rest).toList = "node.".toList ++ rest.toList := String.toList_append
    have hp : nodeId? p.1 = some n.id.toList := by
      rw [nodeId?, hname, hlist, if_pos (by simp), List.drop_left, hid, Text.trimmed, String.toList_ofList]
    rw [List.filterMap_cons, hp, List.map_cons, List.map_cons, ih]

/-- Each section named for a node states one, and the workflow has of the nodes with one id the
first. So it has them one by one just if the sections have distinct ids. -/
theorem parse_nodes {text : String} {w : Workflow} (h : parse text = .ok w) :
    ∃ bs ns, Document.blocks text = .ok bs ∧ List.Forall₂ Node.StatedBy ns (nodePages (bs.map Block.page)) ∧
      w.nodes = firstNodes ns ∧
      (List.Forall₂ Node.StatedBy w.nodes (nodePages (bs.map Block.page)) ↔
        ((nodePages (bs.map Block.page)).filterMap fun p => nodeId? p.1).Nodup) := by
  have hids := (parse_readable h).ids
  obtain ⟨bs, d, hb, hd, hf⟩ := parse_eq_ok.mp h
  obtain ⟨ns, hns, hstated⟩ := Draft.addAll_nodes (Document.blocks_readable hb).pages hd
  rw [Draft.empty, List.nil_append] at hns
  have hfirst : w.nodes = firstNodes ns := by rw [finish_nodes hf, hns]
  refine ⟨bs, ns, hb, hstated, hfirst, ?_⟩
  rw [stated_ids hstated, List.nodup_map_iff fun _ _ => String.toList_injective]
  constructor
  · intro hone
    have hlen : ns.length ≤ (firstNodes ns).length := by
      rw [← hfirst, hone.length_eq, hstated.length_eq]
    have hall : w.nodes = ns := hfirst.trans ((firstNodes_sublist ns).eq_of_length_le hlen)
    rw [← hall]
    exact hids
  · intro hdistinct
    rw [hfirst, firstNodes_of_nodup hdistinct]
    exact hstated

/-! ## A node stated twice -/

def twice : String :=
  "[workflow]\nstart_node = A\n[node.A]\ntype = set\n[node. A]\ntype = fail\nlabel = again\n"
    ++ "[node.B]\ntype = echo\nhandler = A\nvalue = 1\n"

set_option maxRecDepth 20000 in
theorem parse_nodes_twice : ∃ w, parse twice = .ok w ∧ w.nodeIds = ["A", "B"] ∧ ∃ bs ns, Document.blocks twice = .ok bs ∧
    List.Forall₂ Node.StatedBy ns (nodePages (bs.map Block.page)) ∧ w.nodes = firstNodes ns ∧
    (List.Forall₂ Node.StatedBy w.nodes (nodePages (bs.map Block.page)) ↔
      ((nodePages (bs.map Block.page)).filterMap fun p => nodeId? p.1).Nodup) := by
  have hids : (parse twice).toOption.map nodeIds = some ["A", "B"] := by decide +kernel
  cases hw : parse twice with
  | error e => rw [hw] at hids; cases hids
  | ok w =>
    rw [hw] at hids
    exact ⟨w, rfl, Option.some.inj hids, parse_nodes hw⟩

set_option maxRecDepth 20000 in
/-- A section may be left out without an error. -/
theorem not_each_section : ¬∀ (text : String) (w : Workflow), parse text = .ok w → ∃ bs,
    Document.blocks text = .ok bs ∧ List.Forall₂ Node.StatedBy w.nodes (nodePages (bs.map Block.page)) := by
  intro hall
  have hnodes : (parse twice).toOption.map (fun w => w.nodes.length) = some 2 := by decide +kernel
  have hpages : (Document.blocks twice).toOption.map (fun bs => (nodePages (bs.map Block.page)).length) = some 3 := by
    decide +kernel
  cases hw : parse twice with
  | error e => rw [hw] at hnodes; cases hnodes
  | ok w =>
    obtain ⟨bs, hb, hone⟩ := hall twice w hw
    rw [hw] at hnodes
    rw [hb] at hpages
    have htwo : w.nodes.length = 2 := Option.some.inj hnodes
    have hthree : (nodePages (bs.map Block.page)).length = 3 := Option.some.inj hpages
    have hlen := hone.length_eq
    omega

end Workflow

end FlowEngine
