import Mathlib
import FlowEngine.Proofs.Workflow.Readable

/-!
# Sections in another order

Where the sections of a document stand matters only if two of them describe one
node: then the first counts (`parse_spec`). So a workflow stays the same if its
sections change places and the first on each node stays the first
(`Rearranged.reordered`).
-/

namespace FlowEngine

open Document (Value Block Body Page edgesName ReadableBlocks)

namespace Workflow

/-- Whether a section describes the node with the given id. -/
def describes (id : String) (p : Page) : Bool := nodeId? p.1 = some id.toList

def describedNode? (id : String) (p : Page) : Option Node := (readNode id (entriesOf p.2)).toOption

def statedEdges (p : Page) : List (String × Routing) :=
  match p.2 with
  | .values _ => []
  | .routes edges => edges

/-! ## What a draft has of each section -/

theorem describes_eq_false {id name : String} {body : Body} (h : nodeId? name = none) :
    describes id (name, body) = false := by
  simp [describes, h]

structure Draft.Gains (d d' : Draft) (p : Page) : Prop where
  edges : d'.edges = d.edges ++ statedEdges p
  nodes : ∀ id, d'.nodes.find? (fun n => n.id == id) =
    (d.nodes.find? fun n => n.id == id).or (if describes id p then describedNode? id p else none)
  described : ∀ id, describes id p = true → (describedNode? id p).isSome = true

theorem Draft.gains_of_plain {d d' : Draft} {p : Page} (hn : nodeId? p.1 = none) (hnodes : d'.nodes = d.nodes)
    (hedges : d'.edges = d.edges ++ statedEdges p) : d.Gains d' p := by
  have hnot (id : String) : describes id p = false := describes_eq_false hn
  refine ⟨hedges, ?_, ?_⟩
  · intro id
    rw [hnodes, hnot, if_neg Bool.false_ne_true, Option.or_none]
  · intro id h
    rw [hnot] at h
    cases h

theorem Draft.gains_of_node {d : Draft} {p : Page} {cs : List Char} (hid : nodeId? p.1 = some cs) {n : Node}
    (hn : readNode (String.ofList cs) (entriesOf p.2) = .ok n) (hedges : statedEdges p = []) :
    d.Gains { d with nodes := d.nodes ++ [n] } p := by
  have hdescribes (id : String) : describes id p = true ↔ String.ofList cs = id := by
    rw [describes, hid, decide_eq_true_eq, Option.some.injEq]
    constructor
    · intro hc
      rw [hc, String.ofList_toList]
    · intro he
      rw [← he, String.toList_ofList]
  have hnode : describedNode? (String.ofList cs) p = some n := by
    rw [describedNode?, hn]
    rfl
  have hnid : n.id = String.ofList cs := (readNode_parts hn).1
  refine ⟨by rw [hedges, List.append_nil], ?_, ?_⟩
  · intro id
    rw [List.find?_append]
    congr 1
    by_cases he : String.ofList cs = id
    · rw [if_pos ((hdescribes id).mpr he), ← he, hnode]
      simp [hnid]
    · rw [if_neg fun hd => he ((hdescribes id).mp hd)]
      simp [hnid, he]
  · intro id hd
    rw [← (hdescribes id).mp hd, hnode]
    rfl

theorem Draft.Added.gains {d d' : Draft} {p : Page} (hp : p.Readable) (h : d.Added p d') : d.Gains d' p := by
  cases h with
  | header entries =>
    exact gains_of_plain (nodeId?_plain "workflow" (by simp [plainNames])) rfl (List.append_nil _).symm
  | parameters entries =>
    exact gains_of_plain (nodeId?_plain "parameters" (by simp [plainNames])) rfl (List.append_nil _).symm
  | settings entries =>
    exact gains_of_plain (nodeId?_plain "settings" (by simp [plainNames])) rfl (List.append_nil _).symm
  | node entries hid hne hn => exact gains_of_node hid hn rfl
  | edges name edges =>
    have hname : name = edgesName := hp.body.1
    exact gains_of_plain (nodeId?_plain name (by simp [plainNames, hname])) rfl rfl
  | plain entries hname hid => exact gains_of_plain hid rfl (List.append_nil _).symm

theorem Draft.addAll_spec : ∀ {bs : List Block} {d d' : Draft}, (∀ b ∈ bs, b.page.Readable) →
    bs.foldlM Draft.add d = .ok d' →
    d'.edges = d.edges ++ (bs.map Block.page).flatMap statedEdges ∧ ∀ id, d'.nodes.find? (fun n => n.id == id) =
      (d.nodes.find? fun n => n.id == id).or (((bs.map Block.page).find? (describes id)).bind (describedNode? id))
  | [], d, d', _, h => by
    cases h
    exact ⟨(List.append_nil _).symm, fun id => Option.or_none.symm⟩
  | b :: bs, d, d', hb, h => by
    obtain ⟨d1, h1, h⟩ := bind_eq_ok.mp h
    obtain ⟨hb1, hrest⟩ := List.forall_mem_cons.mp hb
    have hgains := (Draft.add_eq_ok.mp h1).gains hb1
    obtain ⟨he, hn⟩ := addAll_spec hrest h
    refine ⟨by rw [he, hgains.edges, List.map_cons, List.flatMap_cons, List.append_assoc], ?_⟩
    intro id
    rw [hn, hgains.nodes, Option.or_assoc, List.map_cons, List.find?_cons]
    cases hd : describes id b.page with
    | true =>
      obtain ⟨n, hn⟩ := Option.isSome_iff_exists.mp (hgains.described id hd)
      rw [if_pos rfl, Option.bind_some, hn, Option.some_or]
    | false => rw [if_neg Bool.false_ne_true, Option.none_or]

/-! ## The finished workflow -/

theorem addNodes_node? : ∀ (ns : List Node) (w : Workflow) (id : String),
    (ns.foldl (fun w n => (w.addNode n).2) w).node? id = (w.node? id).or (ns.find? fun n => n.id == id)
  | [], w, id => Option.or_none.symm
  | n :: ns, w, id => by
    rw [List.foldl_cons, addNodes_node? ns, List.find?_cons, addNode]
    by_cases hn : w.hasNode n.id = true
    · rw [if_pos hn]
      cases he : n.id == id with
      | true =>
        rw [beq_iff_eq] at he
        subst he
        obtain ⟨m, hm⟩ := Option.isSome_iff_exists.mp hn
        rw [hm, Option.some_or, Option.some_or]
      | false => rfl
    · rw [if_neg hn]
      have hadd : node? { w with nodes := w.nodes ++ [n] } id =
          (w.node? id).or (if n.id == id then some n else none) := by
        rw [node?, List.find?_append, List.find?_singleton]
        rfl
      rw [hadd, Option.or_assoc]
      congr 1
      cases n.id == id with
      | true => rfl
      | false => rfl

theorem addNodes_edges (ns : List Node) {w : Workflow} (hw : w.nodeIds.Nodup) :
    (ns.foldl (fun w n => (w.addNode n).2) w).edges = w.edges := by
  obtain ⟨ms, hms, -⟩ := addNodes_spec ns w hw
  rw [hms]

theorem finish_spec {d : Draft} {w : Workflow} (h : d.finish = .ok w) :
    w.edges = d.edges ∧ ∀ id, w.node? id = d.nodes.find? fun n => n.id == id := by
  obtain ⟨header, name, description, startNode, -, rfl⟩ := Draft.finish_eq_addNodes h
  exact ⟨addNodes_edges d.nodes List.nodup_nil, fun id => (addNodes_node? d.nodes _ id).trans Option.none_or⟩

theorem parse_spec {text : String} {w : Workflow} (h : parse text = .ok w) : ∃ bs, Document.blocks text = .ok bs ∧
    w.edges = (bs.map Block.page).flatMap statedEdges ∧
    ∀ id, w.node? id = ((bs.map Block.page).find? (describes id)).bind (describedNode? id) := by
  obtain ⟨bs, d, hb, hd, hf⟩ := parse_eq_ok.mp h
  obtain ⟨hedges, hnodes⟩ := Draft.addAll_spec (Document.blocks_readable hb).pages hd
  obtain ⟨he, hn⟩ := finish_spec hf
  exact ⟨bs, hb, he.trans hedges, fun id => (hn id).trans (hnodes id)⟩

/-! ## Another order -/

/-- The same sections in another order. Of those that describe one node the same comes first. -/
structure SectionsReordered (ps ps' : List Page) : Prop where
  perm : ps'.Perm ps
  first : ∀ id, ps'.find? (describes id) = ps.find? (describes id)

theorem find?_describes {id : String} {p : Page} : ∀ {ps : List Page}, (ps.filterMap fun q => nodeId? q.1).Nodup →
    p ∈ ps → describes id p = true → ps.find? (describes id) = some p
  | q :: ps, hn, hp, hd => by
    rcases List.mem_cons.mp hp with rfl | hp
    · rw [List.find?_cons, hd]
    · have hpid : nodeId? p.1 = some id.toList := of_decide_eq_true hd
      have hrest : (ps.filterMap fun q => nodeId? q.1).Nodup := hn.sublist ((List.sublist_cons_self q ps).filterMap _)
      have hq : describes id q = false := by
        rw [← Bool.not_eq_true]
        intro hq
        have hqid : nodeId? q.1 = some id.toList := of_decide_eq_true hq
        simp only [List.filterMap_cons, hqid, List.nodup_cons] at hn
        exact hn.1 (List.mem_filterMap.mpr ⟨p, hp, hpid⟩)
      rw [List.find?_cons, hq]
      exact find?_describes hrest hp hd

/-- If each node is described once, any order will do. -/
theorem SectionsReordered.of_distinct {ps ps' : List Page} (hperm : ps'.Perm ps)
    (hn : (ps.filterMap fun p => nodeId? p.1).Nodup) : SectionsReordered ps ps' := by
  have hn' : (ps'.filterMap fun p => nodeId? p.1).Nodup := (hperm.filterMap _).nodup_iff.mpr hn
  refine ⟨hperm, ?_⟩
  intro id
  cases hf : ps.find? (describes id) with
  | none =>
    rw [List.find?_eq_none] at hf ⊢
    exact fun p hp => hf p (hperm.mem_iff.mp hp)
  | some p => exact find?_describes hn' (hperm.mem_iff.mpr (List.mem_of_find?_eq_some hf)) (List.find?_some hf)

theorem statedEdges_eq_nil {p : Page} (hp : p.Readable) (hname : p.1 ≠ edgesName) : statedEdges p = [] := by
  obtain ⟨name, body⟩ := p
  cases body with
  | values entries => rfl
  | routes edges => exact absurd hp.body.1 hname

theorem flatMap_statedEdges {ps ps' : List Page} (h : ps'.Perm ps) : (ps.map Prod.fst).Nodup →
    (∀ p ∈ ps, p.Readable) → ps'.flatMap statedEdges = ps.flatMap statedEdges := by
  induction h with
  | nil => exact fun _ _ => rfl
  | @cons p qs qs' _ ih =>
    intro hn hr
    rw [List.flatMap_cons, List.flatMap_cons, ih (List.nodup_cons.mp hn).2 fun q hq => hr q (List.mem_cons_of_mem p hq)]
  | swap p q ps =>
    intro hn hr
    have hne : p.1 ≠ q.1 := by
      rintro he
      simp [he] at hn
    have hnil : statedEdges p = [] ∨ statedEdges q = [] := by
      by_cases hp : p.1 = edgesName
      · exact .inr (statedEdges_eq_nil (hr q (by simp)) fun hq => hne (hp.trans hq.symm))
      · exact .inl (statedEdges_eq_nil (hr p (by simp)) hp)
    rcases hnil with hnil | hnil
    · simp only [List.flatMap_cons, hnil, List.nil_append]
    · simp only [List.flatMap_cons, hnil, List.nil_append]
  | @trans _ qs _ _ h2 ih1 ih2 =>
    intro hn hr
    have hn' : (qs.map Prod.fst).Nodup := (h2.map Prod.fst).nodup_iff.mpr hn
    exact (ih1 hn' fun p hp => hr p (h2.mem_iff.mp hp)).trans (ih2 hn hr)

/-- A document of the same sections in another order. -/
def Rearranged (text text' : String) : Prop :=
  ∃ bs bs', Document.blocks text = .ok bs ∧ Document.blocks text' = .ok bs' ∧
    SectionsReordered (bs.map Block.page) (bs'.map Block.page)

/-- The same edges between the same nodes, whatever the order of the nodes. -/
structure Reordered (w w' : Workflow) : Prop where
  edges : w'.edges = w.edges
  node?_eq : ∀ id, w'.node? id = w.node? id

theorem Rearranged.reordered {text text' : String} {w w' : Workflow} (h : Rearranged text text')
    (hw : parse text = .ok w) (hw' : parse text' = .ok w') : w.Reordered w' := by
  obtain ⟨bs, bs', hb, hb', hperm, hfirst⟩ := h
  obtain ⟨cs, hc, hedges, hnodes⟩ := parse_spec hw
  obtain ⟨cs', hc', hedges', hnodes'⟩ := parse_spec hw'
  rw [hb] at hc
  rw [hb'] at hc'
  cases hc
  cases hc'
  have hread := Document.blocks_readable hb
  refine ⟨?_, ?_⟩
  · rw [hedges, hedges']
    apply flatMap_statedEdges hperm
    · rw [List.map_map]
      exact hread.names
    · intro p hp
      obtain ⟨b, hb, rfl⟩ := List.mem_map.mp hp
      exact hread.pages b hb
  · intro id
    rw [hnodes, hnodes', hfirst]

end Workflow

end FlowEngine
