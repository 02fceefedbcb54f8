import FlowEngine.Catalog
import FlowEngine.Proofs.Entries
import FlowEngine.Proofs.Except
import FlowEngine.Proofs.Placeholder.Comparison

/-!
# What a catalog holds

A catalog answers a name with the workflow that was put in last under it, unless it was
removed since (`get?_replay`). Loading a directory puts in the workflows of its flow
documents up to the first thing that fails, and nothing takes them out again
(`loadFrom_contents`).
-/

namespace FlowEngine

/-! ## Names in order -/

namespace Text

theorem sorted_perm (ss : List String) : (sorted ss).Perm ss := List.mergeSort_perm _ _

theorem sorted_pairwise (ss : List String) : (sorted ss).Pairwise fun a b => order a.toList b.toList ≠ .gt := by
  have htrans (a b c : String) (hab : order a.toList b.toList != .gt) (hbc : order b.toList c.toList != .gt) :
      (order a.toList c.toList != .gt) = true := by
    simp only [bne_iff_ne, ne_eq, ← Ordering.isLE_iff_ne_gt] at hab hbc ⊢
    exact Std.TransCmp.isLE_trans hab hbc
  have htotal (a b : String) : (order a.toList b.toList != .gt || order b.toList a.toList != .gt) = true := by
    have hswap : order a.toList b.toList = (order b.toList a.toList).swap := Std.OrientedCmp.eq_swap
    rw [hswap]
    cases order b.toList a.toList <;> rfl
  exact (List.pairwise_mergeSort htrans htotal ss).imp bne_iff_ne.mp

end Text

namespace Catalog

/-! ## Changes -/

inductive Change where
  | insert (flow : CompiledWorkflow)
  | remove (name : String)

namespace Change

def name : Change → String
  | insert flow => flow.name
  | remove name => name

def flow? : Change → Option CompiledWorkflow
  | insert flow => some flow
  | remove _ => none

end Change

/-- The workflow that some changes, in their order, leave under a name. -/
def current? (changes : List Change) (name : String) : Option CompiledWorkflow :=
  (changes.reverse.find? (·.name == name)).bind Change.flow?

def change (c : Catalog) : Change → Catalog
  | .insert flow => c.insert flow
  | .remove name => (c.remove name).2

def replay (changes : List Change) : Catalog := changes.foldl change empty

theorem get?_insert (c : Catalog) (flow : CompiledWorkflow) (name : String) :
    (c.insert flow).get? name = if flow.name = name then some flow else c.get? name :=
  Entries.get?_insert c.flows flow.name flow name

theorem remove_snd (c : Catalog) (name : String) : (c.remove name).2 = ⟨Entries.erase c.flows name⟩ := rfl

theorem get?_remove {c : Catalog} (h : (Entries.keys c.flows).Nodup) (removed name : String) :
    (c.remove removed).2.get? name = if removed = name then none else c.get? name := by
  rw [remove_snd]
  exact Entries.get?_erase h removed name

theorem nodup_change {c : Catalog} (h : (Entries.keys c.flows).Nodup) (ch : Change) :
    (Entries.keys (c.change ch).flows).Nodup := by
  cases ch with
  | insert flow => exact Entries.nodup_keys_insert flow.name flow h
  | remove name => exact h.sublist (Entries.keys_erase_sublist c.flows name)

theorem get?_change {c : Catalog} (h : (Entries.keys c.flows).Nodup) (ch : Change) (name : String) :
    (c.change ch).get? name = if ch.name = name then ch.flow? else c.get? name := by
  cases ch with
  | insert flow => exact get?_insert c flow name
  | remove removed => exact get?_remove h removed name

theorem replay_append (before : List Change) (ch : Change) :
    replay (before ++ [ch]) = (replay before).change ch := List.foldl_concat ..

theorem nodup_replay (changes : List Change) : (Entries.keys (replay changes).flows).Nodup := by
  induction changes using List.reverseRecOn with
  | nil => exact List.nodup_nil
  | append_singleton before ch ih =>
    rw [replay_append]
    exact nodup_change ih ch

theorem get?_replay (changes : List Change) (name : String) : (replay changes).get? name = current? changes name := by
  induction changes using List.reverseRecOn with
  | nil => rfl
  | append_singleton before ch ih =>
    rw [replay_append, get?_change (nodup_replay before), ih, current?, current?, List.reverse_append,
      List.reverse_singleton, List.singleton_append, List.find?_cons]
    by_cases h : ch.name = name
    · simp [h]
    · simp [h, beq_false_of_ne h]

/-! ## Directories -/

def latest? (flows : List CompiledWorkflow) (name : String) : Option CompiledWorkflow :=
  flows.reverse.find? (·.name == name)

theorem get?_foldl_insert (flows : List CompiledWorkflow) (c : Catalog) (name : String) :
    (flows.foldl insert c).get? name = (latest? flows name).or (c.get? name) := by
  induction flows generalizing c with
  | nil => rfl
  | cons flow flows ih =>
    rw [List.foldl_cons, ih, get?_insert, latest?, latest?, List.reverse_cons, List.find?_append, Option.or_assoc]
    by_cases h : flow.name = name
    · simp [h]
    · simp [h]

/-- What a listing gives where it names a flow document or breaks off: the workflow, or
the fault that loading ends with. -/
def outcome? (cal : Calendar) : Listed ε → Option (Except (LoadFault ε) CompiledWorkflow)
  | .error e => some (.error (.interrupted e))
  | .ok (file, text) =>
    if isFlowFile file then
      match text with
      | .error e => some (.error (.unreadable file e))
      | .ok text => some ((CompiledWorkflow.ofDocument cal text).mapError (.refused file))
    else none

theorem loadListing_cons (c : Catalog) (cal : Calendar) (entry : Listed ε) (listing : List (Listed ε)) :
    c.loadListing cal (entry :: listing) =
      match outcome? cal entry with
      | none => c.loadListing cal listing
      | some (.error fault) => (.error fault, c)
      | some (.ok flow) =>
        (((c.insert flow).loadListing cal listing).1.map (flow.name :: ·), ((c.insert flow).loadListing cal listing).2) := by
  cases entry with
  | error e => rfl
  | ok file =>
    obtain ⟨file, text⟩ := file
    by_cases hfile : isFlowFile file
    · cases text with
      | error e => simp [loadListing, outcome?, hfile]
      | ok text =>
        simp only [loadListing, outcome?, hfile, if_true, load]
        cases CompiledWorkflow.ofDocument cal text <;> rfl
    · cases text <;> simp [loadListing, outcome?, hfile]

theorem loadListing_cases (c : Catalog) (cal : Calendar) (listing : List (Listed ε)) :
    (∃ flows : List CompiledWorkflow, listing.filterMap (outcome? cal) = flows.map .ok ∧
      c.loadListing cal listing = (.ok (flows.map (·.name)), flows.foldl insert c)) ∨
    ∃ before entry after, ∃ flows : List CompiledWorkflow, ∃ fault, listing = before ++ entry :: after ∧
      before.filterMap (outcome? cal) = flows.map .ok ∧ outcome? cal entry = some (.error fault) ∧
      c.loadListing cal listing = (.error fault, flows.foldl insert c) := by
  induction listing generalizing c with
  | nil => exact .inl ⟨[], rfl, rfl⟩
  | cons entry listing ih =>
    rw [loadListing_cons]
    cases hentry : outcome? cal entry with
    | none =>
      rcases ih c with ⟨flows, hflows, hload⟩ | ⟨before, faulty, after, flows, fault, rfl, hflows, hfault, hload⟩
      · exact .inl ⟨flows, by rw [List.filterMap_cons_none hentry, hflows], hload⟩
      · exact .inr ⟨entry :: before, faulty, after, flows, fault, rfl, by rw [List.filterMap_cons_none hentry, hflows], hfault, hload⟩
    | some outcome =>
      cases outcome with
      | error fault => exact .inr ⟨[], entry, listing, [], fault, rfl, rfl, hentry, rfl⟩
      | ok flow =>
        rcases ih (c.insert flow) with ⟨flows, hflows, hload⟩ | ⟨before, faulty, after, flows, fault, rfl, hflows, hfault, hload⟩
        · exact .inl ⟨flow :: flows, by rw [List.filterMap_cons_some hentry, hflows, List.map_cons], by simp [hload]⟩
        · exact .inr ⟨entry :: before, faulty, after, flow :: flows, fault, rfl,
            by rw [List.filterMap_cons_some hentry, hflows, List.map_cons], hfault, by simp [hload]⟩

theorem loadFrom_ok (c : Catalog) {cal : Calendar} {listing : List (Listed ε)} {flows : List CompiledWorkflow}
    (h : listing.filterMap (outcome? cal) = flows.map .ok) :
    c.loadFrom cal (.ok listing) = (.ok (Text.sorted (flows.map (·.name))), flows.foldl insert c) := by
  rcases loadListing_cases c cal listing with
    ⟨flows', hflows, hload⟩ | ⟨before, faulty, after, flows', fault, rfl, -, hfault, -⟩
  · have he : flows' = flows := List.map_injective_iff.mpr (fun _ _ => Except.ok.inj) (hflows.symm.trans h)
    rw [loadFrom, hload, he]
    rfl
  · have hmem : .error fault ∈ flows.map Except.ok := by
      rw [← h]
      exact List.mem_filterMap.mpr ⟨faulty, by simp, hfault⟩
    simp at hmem

/-- Once a directory is loaded to its end the catalog is the old one with the workflow of every
flow document, where the last of a name counts, and the answer holds their names in order.
Otherwise it is the old one with the workflows of the flow documents that the listing gives
before the one at fault. -/
theorem loadFrom_contents (c : Catalog) (cal : Calendar) (directory : Except ε (List (Listed ε))) :
    match c.loadFrom cal directory with
    | (.ok names, after) =>
      ∃ listing flows, directory = .ok listing ∧ listing.filterMap (outcome? cal) = flows.map .ok ∧
        names.Perm (flows.map (·.name)) ∧ names.Pairwise (fun a b => Text.order a.toList b.toList ≠ .gt) ∧
        ∀ name, after.get? name = (latest? flows name).or (c.get? name)
    | (.error fault, after) =>
      (∃ e, directory = .error e ∧ fault = .unopened e ∧ after = c) ∨
      ∃ before faulty rest flows, directory = .ok (before ++ faulty :: rest) ∧
        before.filterMap (outcome? cal) = flows.map .ok ∧ outcome? cal faulty = some (.error fault) ∧
        ∀ name, after.get? name = (latest? flows name).or (c.get? name) := by
  cases directory with
  | error e => exact .inl ⟨e, rfl, rfl, rfl⟩
  | ok listing =>
    rcases loadListing_cases c cal listing with
      ⟨flows, hflows, -⟩ | ⟨before, faulty, rest, flows, fault, rfl, hflows, hfault, hload⟩
    · rw [loadFrom_ok c hflows]
      exact ⟨listing, flows, rfl, hflows, Text.sorted_perm _, Text.sorted_pairwise _, get?_foldl_insert flows c⟩
    · rw [loadFrom, hload]
      exact .inr ⟨before, faulty, rest, flows, rfl, hflows, hfault, get?_foldl_insert flows c⟩

theorem loadFrom_not_atomic :
    let good := "[workflow]\nname = \"x\"\nstart_node = A\n[node.A]\ntype = set\n"
    let files : List (Listed Empty) := [.ok ("a.flow", .ok good), .ok ("b.flow", .ok "")]
    (empty.loadFrom .standard (.ok files)).1.toOption = none ∧ (empty.get? "x").isNone ∧
      ((empty.loadFrom .standard (.ok files)).2.get? "x").isSome := by
  decide

end Catalog

end FlowEngine
