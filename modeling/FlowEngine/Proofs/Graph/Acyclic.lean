import Mathlib
import FlowEngine.Graph.Cycle
import FlowEngine.Proofs.Except
import FlowEngine.Proofs.Graph.Reach

/-!
# Orders without cycles

A search that reports no cycle has put the nodes that it saw in an order in which
every successor of a node stands behind it (`cycle?_eq_none`). In such an order
no node leads back to itself.
-/

namespace FlowEngine.Graph

variable {g : Graph}

def Ordered (g : Graph) : List String → Prop
  | [] => True
  | n :: rest => n ∉ rest ∧ g.successors n ⊆ rest ∧ Ordered g rest

theorem Ordered.successors_subset : ∀ {order : List String}, Ordered g order → ∀ n ∈ order, g.successors n ⊆ order
  | m :: rest, h, n, hn => by
    rcases List.mem_cons.mp hn with rfl | hn
    · exact List.subset_cons_of_subset _ h.2.1
    · exact List.subset_cons_of_subset _ (h.2.2.successors_subset n hn)

theorem Ordered.acyclic : ∀ {order : List String}, Ordered g order → ∀ n ∈ order, ∀ m, n ∈ g.successors m →
    ¬g.Reaches n m
  | k :: rest, h, n, hn, m, hm, hr => by
    have hbehind : ∀ a ∈ rest, ∀ b, g.Reaches a b → b ∈ rest := by
      intro a ha b hab
      induction hab with
      | refl => exact ha
      | tail _ hbc ih => exact h.2.2.successors_subset _ ih hbc
    rcases List.mem_cons.mp hn with rfl | hn
    · cases hr.cases_head with
      | inl he =>
        subst he
        exact h.1 (h.2.1 hm)
      | inr he =>
        obtain ⟨a, ha, hr⟩ := he
        exact h.1 (h.2.2.successors_subset m (hbehind a (h.2.1 ha) m hr) hm)
    · exact h.2.2.acyclic n hn m hm hr

/-- Whatever holds of some node of an order holds of one whose predecessors in it it
does not hold of. -/
theorem Ordered.exists_first {p : String → Prop} : ∀ {order : List String}, Ordered g order →
    (∃ n ∈ order, p n) → ∃ n ∈ order, p n ∧ ∀ m ∈ order, n ∈ g.successors m → ¬p m
  | m :: rest, h, hp => by
    by_cases hm : p m
    · refine ⟨m, by simp, hm, ?_⟩
      intro k hk hs
      rcases List.mem_cons.mp hk with rfl | hk
      · exact absurd (h.2.1 hs) h.1
      · exact absurd (h.2.2.successors_subset k hk hs) h.1
    · obtain ⟨n, hn, hpn, hfirst⟩ := h.2.2.exists_first (p := p) (by
        obtain ⟨n, hn, hpn⟩ := hp
        rcases List.mem_cons.mp hn with rfl | hn
        · exact absurd hpn hm
        · exact ⟨n, hn, hpn⟩)
      refine ⟨n, List.mem_cons_of_mem _ hn, hpn, ?_⟩
      intro k hk hs
      rcases List.mem_cons.mp hk with rfl | hk
      · exact hm
      · exact hfirst k hk hs

/-! ## The search -/

/-- What a search that reports no cycle does: the order grows by the nodes it starts
from, and by none of the path that leads to them. -/
structure Grown (g : Graph) (path starts done result : List String) : Prop where
  ordered : Ordered g result
  kept : done ⊆ result
  found : starts ⊆ result
  fresh : ∀ n ∈ path, n ∈ result → n ∈ done

theorem grown_foldlM {step : List String → String → Except (List String) (List String)} {path : List String} :
    ∀ {starts done result : List String},
      (∀ n ∈ starts, ∀ done result, Ordered g done → step done n = .ok result → Grown g path [n] done result) →
      Ordered g done → starts.foldlM step done = .ok result → Grown g path starts done result
  | [], done, result, _, hd, h => by
    cases h
    exact ⟨hd, List.Subset.refl _, by simp, fun _ _ h => h⟩
  | n :: starts, done, result, hstep, hd, h => by
    rw [List.foldlM_cons] at h
    obtain ⟨done1, h1, h⟩ := bind_eq_ok.mp h
    obtain ⟨hn, hrest⟩ := List.forall_mem_cons.mp hstep
    have g1 := hn done done1 hd h1
    have g2 := grown_foldlM hrest g1.ordered h
    refine ⟨g2.ordered, List.Subset.trans g1.kept g2.kept, List.cons_subset.mpr ⟨?_, g2.found⟩, ?_⟩
    · exact g2.kept (g1.found (by simp))
    · intro m hm hr
      exact g1.fresh m hm (g2.fresh m hm hr)

section
variable (hclosed : ∀ n ∈ g.nodes, g.successors n ⊆ g.nodes)
include hclosed

/-- A path holds each node once, so the fuel outlasts it. -/
theorem grown_search : ∀ (fuel : Nat) {path done result : List String} {n : String}, path.Nodup → path ⊆ g.nodes →
    n ∈ g.nodes → g.nodes.length < path.length + fuel → Ordered g done → g.search fuel path done n = .ok result →
    Grown g path [n] done result
  | 0, path, done, result, n, hnd, hsub, _, hf, _, _ => by
    have := (List.subperm_of_subset hnd hsub).length_le
    omega
  | fuel + 1, path, done, result, n, hnd, hsub, hn, hf, hd, h => by
    rw [search] at h
    split at h
    · cases h
    rename_i hpath
    split at h
    · rename_i hdone
      cases h
      exact ⟨hd, List.Subset.refl _, by simpa using hdone, fun _ _ h => h⟩
    rename_i hdone
    obtain ⟨done1, h1, h⟩ := bind_eq_ok.mp h
    cases h
    have hpath' : n ∉ path := by simpa using hpath
    have hdone' : n ∉ done := by simpa using hdone
    have g1 : Grown g (n :: path) (g.successors n) done done1 := by
      refine grown_foldlM ?_ hd h1
      intro s hs done result hd hr
      exact grown_search fuel (List.nodup_cons.mpr ⟨hpath', hnd⟩) (List.cons_subset.mpr ⟨hn, hsub⟩)
        (hclosed n hn hs) (by rw [List.length_cons]; omega) hd hr
    refine ⟨⟨fun hm => hdone' (g1.fresh n (by simp) hm), g1.found, g1.ordered⟩, ?_, by simp, ?_⟩
    · exact List.subset_cons_of_subset _ g1.kept
    · intro m hm hr
      rcases List.mem_cons.mp hr with rfl | hr
      · exact absurd hm hpath'
      · exact g1.fresh m (List.mem_cons_of_mem _ hm) hr

/-! ## Where the search starts -/

omit hclosed in
theorem finishFrom_selfLoop : ∀ (fuel : Nat) (stack discovered finished : List String) {n : String} {ds : List String},
    g.finishFrom fuel stack discovered finished = (.selfLoop n, ds) → n ∈ g.successors n
  | 0, _, _, _, _, _, h => by rw [finishFrom] at h; cases h
  | fuel + 1, [], _, _, _, _, h => by rw [finishFrom] at h; cases h; simp
  | fuel + 1, m :: stack, discovered, finished, n, ds, h => by
    rw [finishFrom] at h
    split at h
    · exact finishFrom_selfLoop fuel _ _ _ h
    simp only at h
    split at h
    · rename_i hm
      cases h
      simpa using hm
    · exact finishFrom_selfLoop fuel _ _ _ h

omit hclosed in
theorem finishAll_selfLoop (fuel : Nat) : ∀ (ns discovered finished : List String) {n : String},
    g.finishAll fuel ns discovered finished = .selfLoop n → n ∈ g.successors n
  | [], _, _, _, h => by cases h
  | m :: ns, discovered, finished, n, h => by
    rw [finishAll] at h
    split at h
    · exact finishAll_selfLoop fuel ns _ _ h
    split at h
    · rename_i hf
      cases h
      exact finishFrom_selfLoop fuel _ _ _ hf
    · exact finishAll_selfLoop fuel ns _ _ h

omit hclosed in
theorem firstShared?_mem {scope : List String} : ∀ {ns seen : List String} {s : String},
    g.firstShared? scope ns seen = some s → s ∈ scope
  | n :: ns, seen, s, h => by
    rw [firstShared?] at h
    split at h
    · rename_i hf
      cases h
      have := List.find?_some hf
      simp only [Bool.and_eq_true, List.contains_iff_mem] at this
      exact this.1
    · exact firstShared?_mem h

theorem suspect?_mem {scope : List String} (hscope : scope ⊆ g.nodes) (hsource : ∀ e ∈ g.edges, e.1 ∈ g.nodes)
    {s : String} (h : g.suspect? scope = some s) : s ∈ g.nodes := by
  unfold suspect? at h
  split at h
  · rename_i hf
    cases h
    have hs := finishAll_selfLoop _ _ _ _ hf
    exact hclosed _ (hsource _ (mem_successors.mp hs)) hs
  · exact hscope (firstShared?_mem h)

theorem cycle?_eq_none {scope : List String} (hscope : scope ⊆ g.nodes) (hsource : ∀ e ∈ g.edges, e.1 ∈ g.nodes)
    (h : g.cycle? scope = none) : ∃ order, Ordered g order ∧ scope ⊆ order := by
  unfold cycle? at h
  simp only at h
  split at h
  · rename_i order horder
    have hstarts : ∀ n ∈ (g.suspect? scope).toList ++ scope, n ∈ g.nodes := by
      intro n hn
      rcases List.mem_append.mp hn with hn | hn
      · exact suspect?_mem hclosed hscope hsource (Option.mem_toList.mp hn)
      · exact hscope hn
    have hgrown : Grown g [] ((g.suspect? scope).toList ++ scope) [] order :=
      grown_foldlM (fun n hn done result hd hr =>
        grown_search hclosed _ List.nodup_nil (by simp) (hstarts n hn) (by simp) hd hr) trivial horder
    exact ⟨order, hgrown.ordered, fun n hn => hgrown.found (List.mem_append_right _ hn)⟩
  · cases h

end

end FlowEngine.Graph
