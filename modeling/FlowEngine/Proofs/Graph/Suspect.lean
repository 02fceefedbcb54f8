import Mathlib
import FlowEngine.Proofs.Graph.Cycle

/-!
# The first pass over a graph

The pass lists nodes as they finish. When a node finishes, its successors have
finished before, or wait below it on the stack, and those lead to whatever stands
above them (`Stacked`). So each successor of a node is listed before the node or
leads back to it (`Finishing`), a node that is suspected leads back to itself
(`suspect?_cycle`), and without a suspect there is no cycle
(`suspect?_eq_none_iff`). The search that follows a suspicion always finds a cycle
(`report_eq_cycle?`).
-/

namespace FlowEngine.Graph

variable {g : Graph}

/-- The latest node comes first. Each successor of a node stands behind it or leads back to it. -/
def Finishing (g : Graph) : List String → Prop
  | [] => True
  | n :: earlier => n ∉ earlier ∧ (∀ s ∈ g.successors n, s ∈ earlier ∨ Relation.TransGen g.Step s n) ∧ Finishing g earlier

theorem Finishing.of_append {front : List String} : ∀ {back : List String}, Finishing g (front ++ back) → Finishing g back := by
  induction front with
  | nil => exact fun h => h
  | cons n front ih => exact fun h => ih h.2.2

theorem Finishing.mem_or_leads_back : ∀ {finished : List String} {n s : String}, Finishing g finished → n ∈ finished →
    s ∈ g.successors n → s ∈ finished ∨ Relation.TransGen g.Step s n
  | m :: earlier, n, s, h, hn, hs => by
    rcases List.mem_cons.mp hn with rfl | hn
    · exact (h.2.1 s hs).imp_left (List.mem_cons_of_mem n)
    · exact (h.2.2.mem_or_leads_back hn hs).imp_left (List.mem_cons_of_mem m)

/-! ## The stack -/

/-- What holds along a pass over a scope: a node that has not finished leads to what stands
above it on the stack, and of its successors only those are new. -/
structure Stacked (g : Graph) (scope stack discovered finished : List String) : Prop where
  stackScope : stack ⊆ scope
  seenScope : discovered ⊆ scope
  finishing : Finishing g finished
  known : finished ⊆ discovered
  loopless : ∀ n ∈ discovered, n ∉ g.successors n
  entered : ∀ n ∈ discovered, n ∉ finished → ∃ above below, stack = above ++ n :: below ∧ n ∉ above ∧
    (∀ m ∈ above, Relation.TransGen g.Step n m) ∧ ∀ s ∈ g.successors n, s ∈ discovered ∨ s ∈ above

section
variable {scope stack discovered finished : List String}

theorem Stacked.finished_of_nil (h : Stacked g scope [] discovered finished) : discovered ⊆ finished := by
  intro n hn
  by_contra hnot
  obtain ⟨above, below, he, -⟩ := h.entered n hn hnot
  simp at he

theorem entered_tail {n m : String} {above below : List String} (hne : n ≠ m) (he : m :: stack = above ++ n :: below) :
    ∃ rest, above = m :: rest ∧ stack = rest ++ n :: below := by
  cases above with
  | nil => exact absurd (List.cons.inj he).1.symm hne
  | cons a rest =>
    obtain ⟨rfl, htail⟩ := List.cons.inj he
    exact ⟨rest, rfl, htail⟩

variable {n : String}

theorem Stacked.pop (h : Stacked g scope (n :: stack) discovered finished) (hn : n ∈ discovered) :
    Stacked g scope stack discovered (if finished.contains n then finished else n :: finished) := by
  have hstack : stack ⊆ scope := List.Subset.trans (List.subset_cons_self n stack) h.stackScope
  have htail : ∀ m ∈ discovered, m ≠ n → m ∉ finished → ∃ above below, stack = above ++ m :: below ∧ m ∉ above ∧
      (∀ k ∈ above, Relation.TransGen g.Step m k) ∧ ∀ s ∈ g.successors m, s ∈ discovered ∨ s ∈ above := by
    intro m hm hne hnot
    obtain ⟨above, below, he, hfirst, hleads, hsucc⟩ := h.entered m hm hnot
    obtain ⟨rest, rfl, htail⟩ := entered_tail hne he
    refine ⟨rest, below, htail, fun hmem => hfirst (List.mem_cons_of_mem n hmem),
      fun k hk => hleads k (List.mem_cons_of_mem n hk), fun s hs => ?_⟩
    rcases hsucc s hs with hd | ha
    · exact .inl hd
    · rcases List.mem_cons.mp ha with rfl | ha
      · exact .inl hn
      · exact .inr ha
  split
  · rename_i hfinished
    have hfinished : n ∈ finished := by simpa using hfinished
    refine { h with stackScope := hstack, entered := fun m hm hnot => htail m hm ?_ hnot }
    rintro rfl
    exact hnot hfinished
  · rename_i hfinished
    have hfinished : n ∉ finished := by simpa using hfinished
    -- The top is where `n` stands, so nothing is above it and its successors are known.
    have hleft : g.successors n ⊆ discovered := by
      obtain ⟨above, below, he, hfirst, -, hsucc⟩ := h.entered n hn hfinished
      cases above with
      | nil => exact fun s hs => (hsucc s hs).resolve_right (by simp)
      | cons a rest =>
        obtain ⟨rfl, -⟩ := List.cons.inj he
        exact absurd List.mem_cons_self hfirst
    have hback : ∀ s ∈ g.successors n, s ∈ finished ∨ Relation.TransGen g.Step s n := by
      intro s hs
      by_cases hf : s ∈ finished
      · exact .inl hf
      · have hne : s ≠ n := by
          rintro rfl
          exact h.loopless s hn hs
        obtain ⟨above, below, he, -, hleads, -⟩ := h.entered s (hleft hs) hf
        obtain ⟨rest, rfl, -⟩ := entered_tail hne he
        exact .inr (hleads n List.mem_cons_self)
    exact
      { h with
        stackScope := hstack
        finishing := ⟨hfinished, hback, h.finishing⟩
        known := List.cons_subset.mpr ⟨hn, h.known⟩
        entered := fun m hm hnot => by
          rw [List.mem_cons, not_or] at hnot
          exact htail m hm hnot.1 hnot.2 }

theorem Stacked.push (hclosed : ∀ n ∈ scope, g.successors n ⊆ scope) (h : Stacked g scope (n :: stack) discovered finished)
    (hn : n ∉ discovered) (hloop : n ∉ g.successors n) :
    Stacked g scope (((g.successors n).filter fun s => !(n :: discovered).contains s) ++ n :: stack) (n :: discovered)
      finished := by
  have hscope : n ∈ scope := h.stackScope List.mem_cons_self
  have hfresh : ∀ s, s ∈ ((g.successors n).filter fun s => !(n :: discovered).contains s) ↔
      s ∈ g.successors n ∧ s ∉ n :: discovered := fun s => by
    simp
  refine
    { stackScope := List.append_subset.mpr ⟨fun s hs => hclosed n hscope ((hfresh s).mp hs).1, h.stackScope⟩
      seenScope := List.cons_subset.mpr ⟨hscope, h.seenScope⟩
      finishing := h.finishing
      known := List.subset_cons_of_subset n h.known
      loopless := List.forall_mem_cons.mpr ⟨hloop, h.loopless⟩
      entered := ?_ }
  intro m hm hnot
  by_cases hne : m = n
  · subst hne
    refine ⟨_, stack, rfl, fun hmem => ((hfresh m).mp hmem).2 List.mem_cons_self,
      fun s hs => .single ((hfresh s).mp hs).1, fun s hs => ?_⟩
    by_cases hd : s ∈ m :: discovered
    · exact .inl hd
    · exact .inr ((hfresh s).mpr ⟨hs, hd⟩)
  · have hm : m ∈ discovered := (List.mem_cons.mp hm).resolve_left hne
    obtain ⟨above, below, he, hfirst, hleads, hsucc⟩ := h.entered m hm hnot
    obtain ⟨rest, rfl, he⟩ := entered_tail hne he
    have hmn : Relation.TransGen g.Step m n := hleads n List.mem_cons_self
    refine ⟨_ ++ n :: rest, below, by rw [he, List.append_assoc, List.cons_append], fun hmem => ?_, fun k hk => ?_,
      fun s hs => ?_⟩
    · rcases List.mem_append.mp hmem with hmem | hmem
      · exact ((hfresh m).mp hmem).2 (List.mem_cons_of_mem n hm)
      · exact hfirst hmem
    · rcases List.mem_append.mp hk with hk | hk
      · exact hmn.tail ((hfresh k).mp hk).1
      · exact hleads k hk
    · rcases hsucc s hs with hd | ha
      · exact .inl (List.mem_cons_of_mem n hd)
      · exact .inr (List.mem_append_right _ ha)

end

/-! ## The pass -/

/-- What is left of a pass: its stack, and the nodes and edges that it has not seen. -/
def passLength (g : Graph) (stack discovered : List String) : Nat :=
  stack.length + (g.openEdges discovered).length + (g.nodes.filter fun n => !discovered.contains n).length

theorem openEdges_cons (n : String) (seen : List String) : g.openEdges (n :: seen) = g.openEdges (seen ++ [n]) := by
  simp [openEdges, Bool.and_comm]

theorem passLength_push {n : String} {discovered : List String} (stack : List String) (hnode : n ∈ g.nodes)
    (hn : n ∉ discovered) :
    g.passLength (((g.successors n).filter fun s => !(n :: discovered).contains s) ++ n :: stack) (n :: discovered)
      < g.passLength (n :: stack) discovered := by
  have hedges := length_openEdges (g := g) hn
  have hfresh := List.length_filter_le (fun s => !(n :: discovered).contains s) (g.successors n)
  have hnodes : (g.nodes.filter fun m => !(n :: discovered).contains m).length
      < (g.nodes.filter fun m => !discovered.contains m).length := by
    have hsplit : (g.nodes.filter fun m => !(n :: discovered).contains m)
        = (g.nodes.filter fun m => !discovered.contains m).filter fun m => !decide (m = n) := by
      simp [List.filter_filter]
    rw [hsplit, List.length_filter_lt_length_iff_exists]
    exact ⟨n, List.mem_filter.mpr ⟨hnode, by simpa using hn⟩, by simp⟩
  rw [passLength, passLength, List.length_append, openEdges_cons]
  omega

section
variable {scope : List String} (hclosed : ∀ n ∈ scope, g.successors n ⊆ scope) (hscope : scope ⊆ g.nodes)
include hclosed hscope

theorem finishFrom_stacked : ∀ (fuel : Nat) {stack discovered finished ds fs : List String},
    Stacked g scope stack discovered finished → g.passLength stack discovered ≤ fuel →
    g.finishFrom fuel stack discovered finished = (.order fs, ds) →
    Stacked g scope [] ds fs ∧ stack ⊆ ds ∧ discovered ⊆ ds
  | fuel, [], discovered, finished, ds, fs, h, _, hf => by
    have hnil : g.finishFrom fuel [] discovered finished = (.order finished, discovered) := by cases fuel <;> rfl
    rw [hnil] at hf
    cases hf
    exact ⟨h, List.nil_subset _, List.Subset.refl _⟩
  | 0, _ :: _, _, _, _, _, _, hlen, _ => by
    rw [passLength, List.length_cons] at hlen
    omega
  | fuel + 1, n :: stack, discovered, finished, ds, fs, h, hlen, hf => by
    rw [finishFrom] at hf
    split at hf
    · rename_i hn
      have hn : n ∈ discovered := by simpa using hn
      have hlen : g.passLength stack discovered ≤ fuel := by
        rw [passLength, List.length_cons] at hlen
        rw [passLength]
        omega
      obtain ⟨hdone, hstack, hsub⟩ := finishFrom_stacked fuel (h.pop hn) hlen hf
      exact ⟨hdone, List.cons_subset.mpr ⟨hsub hn, hstack⟩, hsub⟩
    rename_i hn
    have hn : n ∉ discovered := by simpa using hn
    simp only at hf
    split at hf
    · cases hf
    rename_i hloop
    have hloop : n ∉ g.successors n := by simpa using hloop
    have hshort := passLength_push stack (hscope (h.stackScope List.mem_cons_self)) hn
    obtain ⟨hdone, hstack, hsub⟩ := finishFrom_stacked fuel (h.push hclosed hn hloop) (by omega) hf
    exact ⟨hdone, (List.append_subset.mp hstack).2, (List.cons_subset.mp hsub).2⟩

omit hclosed hscope in
theorem passLength_start (n : String) (discovered : List String) :
    g.passLength [n] discovered ≤ 2 * (g.nodes.length + g.edges.length) + 2 := by
  have hedges : (g.openEdges discovered).length ≤ g.edges.length := List.length_filter_le _ _
  have hnodes := List.length_filter_le (fun n => !discovered.contains n) g.nodes
  rw [passLength, List.length_singleton]
  omega

theorem finishAll_stacked {fuel : Nat} (hfuel : 2 * (g.nodes.length + g.edges.length) + 2 ≤ fuel) :
    ∀ {ns discovered finished fs : List String}, ns ⊆ scope → Stacked g scope [] discovered finished →
    g.finishAll fuel ns discovered finished = .order fs → ∃ ds, Stacked g scope [] ds fs ∧ ns ⊆ ds ∧ discovered ⊆ ds
  | [], discovered, finished, fs, _, h, hf => by
    cases hf
    exact ⟨discovered, h, List.nil_subset _, List.Subset.refl _⟩
  | n :: ns, discovered, finished, fs, hsub, h, hf => by
    obtain ⟨hn, hns⟩ := List.cons_subset.mp hsub
    rw [finishAll] at hf
    split at hf
    · rename_i hseen
      obtain ⟨ds, hdone, hrest, hkept⟩ := finishAll_stacked hfuel hns h hf
      exact ⟨ds, hdone, List.cons_subset.mpr ⟨hkept (by simpa using hseen), hrest⟩, hkept⟩
    · split at hf
      · cases hf
      · rename_i fs' ds' hfrom
        have hstart : Stacked g scope [n] discovered finished :=
          { h with
            stackScope := List.cons_subset.mpr ⟨hn, List.nil_subset _⟩
            entered := fun m hm hnot => absurd (h.finished_of_nil hm) hnot }
        have hlen := (passLength_start (g := g) n discovered).trans hfuel
        obtain ⟨hpart, htop, hkept⟩ := finishFrom_stacked hclosed hscope fuel hstart hlen hfrom
        obtain ⟨ds, hdone, hrest, hkept'⟩ := finishAll_stacked hfuel hns hpart hf
        exact ⟨ds, hdone, List.cons_subset.mpr ⟨hkept' (htop List.mem_cons_self), hrest⟩,
          List.Subset.trans hkept hkept'⟩

end

/-! ## Suspects -/

theorem firstShared?_eq_some {scope : List String} : ∀ {ns seen : List String} {s : String},
    g.firstShared? scope ns seen = some s → ∃ front n back, ns = front ++ n :: back ∧ n ∈ g.successors s ∧
      s ∈ scope ∧ s ∉ front ∧ s ≠ n ∧ s ∉ seen
  | n :: ns, seen, s, h => by
    rw [firstShared?] at h
    split at h
    · rename_i hfind
      cases h
      have hedge : n ∈ g.successors s := mem_successors.mpr (mem_sources.mp (List.mem_of_find?_eq_some hfind))
      have hshared : s ∈ scope ∧ ¬s = n ∧ s ∉ seen := by simpa using List.find?_some hfind
      exact ⟨[], n, ns, rfl, hedge, hshared.1, by simp, hshared.2⟩
    · obtain ⟨front, m, back, rfl, hedge, hscope, hfront, hne, hseen⟩ := firstShared?_eq_some h
      rw [List.mem_cons, not_or] at hseen
      refine ⟨n :: front, m, back, rfl, hedge, hscope, ?_, hne, hseen.2⟩
      rw [List.mem_cons, not_or]
      exact ⟨hseen.1, hfront⟩

theorem ordered_of_firstShared? {scope : List String} : ∀ {ns seen : List String}, g.firstShared? scope ns seen = none →
    Finishing g ns → ns ⊆ scope → (∀ n ∈ ns, n ∉ seen ∧ n ∉ g.successors n ∧ g.successors n ⊆ seen ++ ns) →
    (∀ t ∈ seen, ∀ s ∈ scope, t ∈ g.successors s → s ∈ seen) → Ordered g ns
  | [], _, _, _, _, _, _ => trivial
  | n :: ns, seen, h, hf, hsub, hns, hseen => by
    obtain ⟨hn, hsub⟩ := List.cons_subset.mp hsub
    obtain ⟨⟨hnew, hloop, hsucc⟩, hrest⟩ := List.forall_mem_cons.mp hns
    rw [firstShared?] at h
    split at h
    · cases h
    rename_i hfind
    have hseen' : ∀ t ∈ n :: seen, ∀ s ∈ scope, t ∈ g.successors s → s ∈ n :: seen := by
      intro t ht s hs hst
      rcases List.mem_cons.mp ht with rfl | ht
      · have hnot := List.find?_eq_none.mp hfind s (mem_sources.mpr (mem_successors.mp hst))
        by_contra hout
        exact hnot (by simpa [hs] using hout)
      · exact List.mem_cons_of_mem n (hseen t ht s hs hst)
    refine ⟨hf.1, fun t ht => ?_, ordered_of_firstShared? h hf.2.2 hsub (fun m hm => ?_) hseen'⟩
    · rcases List.mem_append.mp (hsucc ht) with hmem | hmem
      · exact absurd (hseen t hmem n hn ht) hnew
      · refine (List.mem_cons.mp hmem).resolve_left ?_
        rintro rfl
        exact hloop ht
    · obtain ⟨hnew', hloop', hsucc'⟩ := hrest m hm
      refine ⟨?_, hloop', fun t ht => ?_⟩
      · rw [List.mem_cons, not_or]
        refine ⟨?_, hnew'⟩
        rintro rfl
        exact hf.1 hm
      · have hmem := hsucc' ht
        simp only [List.mem_append, List.mem_cons] at hmem ⊢
        tauto

section
variable {scope : List String} (hclosed : ∀ n ∈ scope, g.successors n ⊆ scope) (hscope : scope ⊆ g.nodes)
include hclosed hscope

theorem finishAll_order {finished : List String}
    (h : g.finishAll (2 * (g.nodes.length + g.edges.length) + 2) scope [] [] = .order finished) :
    Finishing g finished ∧ (∀ n, n ∈ finished ↔ n ∈ scope) ∧ ∀ n ∈ finished, n ∉ g.successors n := by
  have hstart : Stacked g scope [] [] [] :=
    { stackScope := List.nil_subset _
      seenScope := List.nil_subset _
      finishing := trivial
      known := List.nil_subset _
      loopless := fun _ hn => by cases hn
      entered := fun _ hn => by cases hn }
  obtain ⟨ds, hdone, hsub, -⟩ := finishAll_stacked hclosed hscope (Nat.le_refl _) (List.Subset.refl _) hstart h
  refine ⟨hdone.finishing, fun n => ⟨fun hn => hdone.seenScope (hdone.known hn), fun hn => ?_⟩,
    fun n hn => hdone.loopless n (hdone.known hn)⟩
  exact hdone.finished_of_nil (hsub hn)

theorem suspect?_cycle {n : String} (h : g.suspect? scope = some n) : Relation.TransGen g.Step n n := by
  unfold suspect? at h
  split at h
  · rename_i hloop
    cases h
    exact .single (finishAll_selfLoop _ _ _ _ hloop)
  · rename_i finished horder
    obtain ⟨hfinishing, hmem, -⟩ := finishAll_order hclosed hscope horder
    obtain ⟨front, m, back, rfl, hedge, hn, hfront, hne, -⟩ := firstShared?_eq_some h
    -- The node finished before `m`, to which it has an edge, so `m` leads back to it.
    have hback : n ∈ back := by
      have hin := (hmem n).mpr hn
      simp only [List.mem_append, List.mem_cons] at hin
      tauto
    have htail := hfinishing.of_append
    rcases htail.2.2.mem_or_leads_back hback hedge with hm | hm
    · exact absurd hm htail.1
    · exact .head hedge hm

theorem ordered_of_suspect? (h : g.suspect? scope = none) : ∃ order, Ordered g order ∧ scope ⊆ order := by
  unfold suspect? at h
  split at h
  · cases h
  · rename_i finished horder
    obtain ⟨hfinishing, hmem, hloop⟩ := finishAll_order hclosed hscope horder
    refine ⟨finished, ordered_of_firstShared? h hfinishing (fun n hn => (hmem n).mp hn) (fun n hn => ?_) (by simp),
      fun n hn => (hmem n).mpr hn⟩
    refine ⟨by simp, hloop n hn, fun s hs => ?_⟩
    rw [List.nil_append]
    exact (hmem s).mpr (hclosed n ((hmem n).mp hn) hs)

variable (hsource : ∀ e ∈ g.edges, e.1 ∈ g.nodes) (htarget : ∀ e ∈ g.edges, e.2 ∈ g.nodes)
include hsource htarget

theorem suspect?_eq_none_iff : g.suspect? scope = none ↔ g.cycle? scope = none := by
  rw [cycle?_eq_none_iff hclosed hscope hsource htarget]
  constructor
  · intro h n hn hcycle
    obtain ⟨order, horder, hsub⟩ := ordered_of_suspect? hclosed hscope h
    obtain ⟨m, hm, hback⟩ := Relation.TransGen.tail'_iff.mp hcycle
    exact horder.acyclic n (hsub hn) m hback hm
  · intro h
    by_contra hsome
    obtain ⟨n, hn⟩ := Option.ne_none_iff_exists'.mp hsome
    exact h n (suspect?_mem_scope hclosed hn) (suspect?_cycle hclosed hscope hn)

end

/-- What a check reports that looks for a cycle only once a node is suspected: the cycle, or
the node alone if it finds none. -/
def report (g : Graph) (scope : List String) : Option (List String) :=
  (g.suspect? scope).map fun n => (g.cycle? scope).getD [n]

theorem report_eq_cycle? {scope : List String} (hclosed : ∀ n ∈ scope, g.successors n ⊆ scope) (hscope : scope ⊆ g.nodes)
    (hsource : ∀ e ∈ g.edges, e.1 ∈ g.nodes) (htarget : ∀ e ∈ g.edges, e.2 ∈ g.nodes) :
    g.report scope = g.cycle? scope := by
  have hiff := suspect?_eq_none_iff hclosed hscope hsource htarget
  unfold report
  cases hn : g.suspect? scope with
  | none => rw [Option.map_none, hiff.mp hn]
  | some n =>
    have hsome : g.cycle? scope ≠ none := fun hnone => by
      rw [hiff.mpr hnone] at hn
      cases hn
    obtain ⟨path, hpath⟩ := Option.ne_none_iff_exists'.mp hsome
    rw [Option.map_some, hpath, Option.getD_some]

end FlowEngine.Graph
