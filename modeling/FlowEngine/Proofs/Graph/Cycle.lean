import Mathlib
import FlowEngine.Graph.Cycle
import FlowEngine.Proofs.Except
import FlowEngine.Proofs.Graph.Acyclic
import FlowEngine.Proofs.Graph.Reach

/-!
# Cycles that are found

The path that the search carries along follows edges and holds no node twice, so
an edge from its end back into it closes a cycle (`isCycle_closeCycle`). In a
scope that no edge leaves, `cycle?` answers only cycles within it
(`cycle?_eq_some`), and none exactly if no node in scope leads back to itself
(`cycle?_eq_none_iff`).
-/

namespace FlowEngine.Graph

variable {g : Graph}

def Step (g : Graph) (a b : String) : Prop := b ∈ g.successors a

/-- A closed walk along edges; only its first node, which is also its last, stands twice. -/
structure IsCycle (g : Graph) (path : List String) : Prop where
  closed : ∃ n mid, path = n :: (mid ++ [n]) ∧ (n :: mid).Nodup
  chain : path.IsChain g.Step

theorem IsCycle.transGen {path : List String} (h : g.IsCycle path) : ∃ n ∈ path, Relation.TransGen g.Step n n := by
  obtain ⟨⟨n, mid, rfl, -⟩, hchain⟩ := h
  refine ⟨n, by simp, ?_⟩
  obtain ⟨m, rest, hrest⟩ := List.exists_cons_of_ne_nil (show mid ++ [n] ≠ [] by simp)
  rw [hrest, List.isChain_cons_cons] at hchain
  obtain ⟨hfirst, hchain⟩ := hchain
  have hlast : (m :: rest).getLast (by simp) = n := by simp only [← hrest, List.getLast_append_singleton]
  exact Relation.TransGen.head' hfirst (List.relationReflTransGen_of_exists_isChain_cons rest hchain hlast)

/-! ## The search -/

/-- The path is given last node first, with an edge from its last node to `n`. -/
theorem isCycle_closeCycle {path : List String} {n : String} (hnd : path.Nodup)
    (hchain : (n :: path).IsChain fun b a => g.Step a b) (hn : n ∈ path) :
    g.IsCycle (closeCycle path n) ∧ closeCycle path n ⊆ path := by
  obtain ⟨behind, ahead, rfl, hbehind⟩ := List.eq_append_cons_of_mem hn
  have htake : (behind ++ n :: ahead).takeWhile (· != n) = behind := by
    rw [List.takeWhile_append_of_pos fun m hm => by simpa using fun he : m = n => hbehind (he ▸ hm)]
    simp
  have hturn : (n :: (behind.reverse ++ [n])) = (n :: behind ++ [n]).reverse := by simp
  unfold closeCycle
  rw [htake]
  refine ⟨⟨⟨n, behind.reverse, rfl, ?_⟩, ?_⟩, ?_⟩
  · rw [List.nodup_cons, List.nodup_reverse, List.mem_reverse]
    exact ⟨hbehind, (List.nodup_append.mp hnd).1⟩
  · rw [hturn, List.isChain_reverse]
    exact hchain.prefix ⟨ahead, by simp⟩
  · intro m hm
    simp only [List.mem_cons, List.mem_append, List.mem_reverse, List.not_mem_nil, or_false] at hm ⊢
    tauto

section
variable {scope : List String} (hclosed : ∀ n ∈ scope, g.successors n ⊆ scope)
include hclosed

theorem search_eq_error : ∀ (fuel : Nat) {path done cycle : List String} {n : String}, path.Nodup → n :: path ⊆ scope →
    (n :: path).IsChain (fun b a => g.Step a b) → g.search fuel path done n = .error cycle →
    g.IsCycle cycle ∧ cycle ⊆ scope
  | 0, _, _, _, _, _, _, _, h => by cases h
  | fuel + 1, path, done, cycle, n, hnd, hsub, hchain, h => by
    rw [search] at h
    split at h
    · rename_i hn
      cases h
      obtain ⟨hcycle, hpath⟩ := isCycle_closeCycle hnd hchain (by simpa using hn)
      exact ⟨hcycle, fun m hm => hsub (List.mem_cons_of_mem _ (hpath hm))⟩
    rename_i hn
    split at h
    · cases h
    cases hfold : (g.successors n).foldlM (g.search fuel (n :: path)) done with
    | ok done' => rw [hfold] at h; cases h
    | error e =>
      rw [hfold] at h
      cases h
      obtain ⟨s, hs, done', hsearch⟩ := foldlM_eq_error hfold
      have hnd' : (n :: path).Nodup := List.nodup_cons.mpr ⟨by simpa using hn, hnd⟩
      have hsub' : s :: n :: path ⊆ scope := List.cons_subset.mpr ⟨hclosed n (hsub (by simp)) hs, hsub⟩
      exact search_eq_error fuel hnd' hsub' (List.isChain_cons_cons.mpr ⟨hs, hchain⟩) hsearch

/-! ## Where the search starts -/

theorem finishFrom_selfLoop_mem : ∀ (fuel : Nat) {stack discovered finished ds : List String} {n : String},
    stack ⊆ scope → g.finishFrom fuel stack discovered finished = (.selfLoop n, ds) → n ∈ scope
  | 0, _, _, _, _, _, _, h => by rw [finishFrom] at h; cases h
  | fuel + 1, [], _, _, _, _, _, h => by rw [finishFrom] at h; cases h; simp
  | fuel + 1, m :: stack, discovered, finished, ds, n, hsub, h => by
    obtain ⟨hm, hstack⟩ := List.cons_subset.mp hsub
    rw [finishFrom] at h
    split at h
    · exact finishFrom_selfLoop_mem fuel hstack h
    simp only at h
    split at h
    · cases h
      exact hm
    · refine finishFrom_selfLoop_mem fuel (List.append_subset.mpr ⟨?_, hsub⟩) h
      exact fun s hs => hclosed m hm (List.mem_filter.mp hs).1

theorem finishAll_selfLoop_mem (fuel : Nat) : ∀ {ns discovered finished : List String} {n : String},
    ns ⊆ scope → g.finishAll fuel ns discovered finished = .selfLoop n → n ∈ scope
  | [], _, _, _, _, h => by cases h
  | m :: ns, discovered, finished, n, hsub, h => by
    obtain ⟨hm, hns⟩ := List.cons_subset.mp hsub
    rw [finishAll] at h
    split at h
    · exact finishAll_selfLoop_mem fuel hns h
    split at h
    · rename_i hf
      cases h
      exact finishFrom_selfLoop_mem hclosed fuel (by simpa using hm) hf
    · exact finishAll_selfLoop_mem fuel hns h

theorem suspect?_mem_scope {s : String} (h : g.suspect? scope = some s) : s ∈ scope := by
  unfold suspect? at h
  split at h
  · rename_i hf
    cases h
    exact finishAll_selfLoop_mem hclosed _ (List.Subset.refl _) hf
  · exact firstShared?_mem h

theorem cycle?_eq_some {path : List String} (h : g.cycle? scope = some path) : g.IsCycle path ∧ path ⊆ scope := by
  unfold cycle? at h
  simp only at h
  split at h
  · cases h
  · rename_i hfold
    cases h
    obtain ⟨n, hn, done, hsearch⟩ := foldlM_eq_error hfold
    have hscope : n ∈ scope := by
      rcases List.mem_append.mp hn with hn | hn
      · exact suspect?_mem_scope hclosed (Option.mem_toList.mp hn)
      · exact hn
    exact search_eq_error hclosed _ List.nodup_nil (by simpa using hscope) (List.isChain_singleton n) hsearch

theorem cycle?_eq_none_iff (hscope : scope ⊆ g.nodes) (hsource : ∀ e ∈ g.edges, e.1 ∈ g.nodes)
    (htarget : ∀ e ∈ g.edges, e.2 ∈ g.nodes) :
    g.cycle? scope = none ↔ ∀ n ∈ scope, ¬Relation.TransGen g.Step n n := by
  constructor
  · intro h n hn hcycle
    have hnodes : ∀ n ∈ g.nodes, g.successors n ⊆ g.nodes := fun n _ s hs => htarget _ (mem_successors.mp hs)
    obtain ⟨order, horder, hsub⟩ := cycle?_eq_none hnodes hscope hsource h
    obtain ⟨m, hm, hback⟩ := Relation.TransGen.tail'_iff.mp hcycle
    exact horder.acyclic n (hsub hn) m hback hm
  · intro h
    by_contra hsome
    obtain ⟨path, hpath⟩ := Option.ne_none_iff_exists'.mp hsome
    obtain ⟨hcycle, hsub⟩ := cycle?_eq_some hclosed hpath
    obtain ⟨n, hn, htrans⟩ := hcycle.transGen
    exact h n (hsub hn) htrans

end

end FlowEngine.Graph
