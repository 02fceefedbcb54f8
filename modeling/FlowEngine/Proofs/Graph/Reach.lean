import Mathlib
import FlowEngine.Graph.Basic

/-!
# What a node leads to

The nodes that a visit answers are those that its root leads to along edges
(`mem_reachableFrom_iff`), each once.
-/

namespace FlowEngine.Graph

variable {g : Graph}

theorem nodup_eraseDups (xs : List String) : xs.eraseDups.Nodup := by
  match xs with
  | [] => exact List.nodup_nil
  | x :: xs =>
    have hlen := List.length_filter_le (fun y => !(y == x)) xs
    rw [List.eraseDups_cons, List.nodup_cons]
    exact ⟨by simp, nodup_eraseDups _⟩
termination_by xs.length
decreasing_by simp only [List.length_cons]; omega

theorem mem_successors {a b : String} : b ∈ g.successors a ↔ (a, b) ∈ g.edges := by
  simp only [successors, List.mem_filterMap, Option.ite_none_right_eq_some, Option.some.injEq]
  constructor
  · rintro ⟨⟨x, y⟩, he, rfl, rfl⟩; exact he
  · exact fun he => ⟨(a, b), he, rfl, rfl⟩

theorem mem_sources {a b : String} : a ∈ g.sources b ↔ (a, b) ∈ g.edges := by
  simp only [sources, List.mem_filterMap, Option.ite_none_right_eq_some, Option.some.injEq]
  constructor
  · rintro ⟨⟨x, y⟩, he, rfl, rfl⟩; exact he
  · exact fun he => ⟨(a, b), he, rfl, rfl⟩

theorem mem_predecessors {a b : String} : a ∈ g.predecessors b ↔ b ∈ g.successors a := by
  rw [predecessors, List.mem_eraseDups, mem_sources, mem_successors]

theorem nodup_predecessors (b : String) : (g.predecessors b).Nodup := nodup_eraseDups _

def Reaches (g : Graph) : String → String → Prop := Relation.ReflTransGen fun a b => b ∈ g.successors a

/-! ## Visiting -/

def openEdges (g : Graph) (seen : List String) : List (String × String) := g.edges.filter fun e => !seen.contains e.1

theorem length_openEdges {n : String} {seen : List String} (h : n ∉ seen) :
    (g.openEdges (seen ++ [n])).length + (g.successors n).length = (g.openEdges seen).length := by
  unfold openEdges successors
  induction g.edges with
  | nil => rfl
  | cons e es ih =>
    by_cases hn : e.1 = n
    · simp [hn, h] at ih ⊢
      omega
    · by_cases hs : e.1 ∈ seen
      · simpa [hn, hs] using ih
      · simp [hn, hs] at ih ⊢
        omega

/-- What a visit keeps and adds: it loses nothing that it has seen or has to do, answers
nothing that these do not lead to, and leaves no successor out. -/
structure Visited (g : Graph) (todo seen result : List String) : Prop where
  kept : seen ⊆ result
  done : todo ⊆ result
  closed : ∀ n ∈ result, n ∉ seen → g.successors n ⊆ result
  sound : ∀ n ∈ result, n ∈ seen ∨ ∃ m ∈ todo, g.Reaches m n
  nodup : seen.Nodup → result.Nodup

theorem visit_spec : ∀ (fuel : Nat) (todo seen : List String), todo.length + (g.openEdges seen).length ≤ fuel →
    Visited g todo seen (g.visit fuel todo seen)
  | 0, [], seen, _ => ⟨List.Subset.refl _, by simp, fun _ h h' => absurd h h', fun _ h => .inl h, id⟩
  | 0, _ :: _, _, hf => absurd hf (by rw [List.length_cons]; omega)
  | fuel + 1, [], seen, _ => ⟨List.Subset.refl _, by simp, fun _ h h' => absurd h h', fun _ h => .inl h, id⟩
  | fuel + 1, n :: todo, seen, hf => by
    rw [visit]
    by_cases hn : n ∈ seen
    · rw [if_pos (by simpa using hn)]
      have ih := visit_spec fuel todo seen (by rw [List.length_cons] at hf; omega)
      refine ⟨ih.kept, List.cons_subset.mpr ⟨ih.kept hn, ih.done⟩, ih.closed, ?_, ih.nodup⟩
      intro m hm
      rcases ih.sound m hm with h | ⟨k, hk, h⟩
      · exact .inl h
      · exact .inr ⟨k, List.mem_cons_of_mem _ hk, h⟩
    · rw [if_neg (by simpa using hn)]
      have hlen := length_openEdges (g := g) hn
      have ih := visit_spec fuel (g.successors n ++ todo) (seen ++ [n])
        (by rw [List.length_append]; rw [List.length_cons] at hf; omega)
      have hsub := List.append_subset.mp ih.kept
      have htodo := List.append_subset.mp ih.done
      have hmem : n ∈ g.visit fuel (g.successors n ++ todo) (seen ++ [n]) := hsub.2 (by simp)
      refine ⟨hsub.1, List.cons_subset.mpr ⟨hmem, htodo.2⟩, ?_, ?_, ?_⟩
      · intro m hm hs
        by_cases he : m = n
        · rw [he]; exact htodo.1
        · exact ih.closed m hm (by simp [hs, he])
      · intro m hm
        rcases ih.sound m hm with h | ⟨k, hk, h⟩
        · rcases List.mem_append.mp h with h | h
          · exact .inl h
          · exact .inr ⟨n, by simp, by rw [List.mem_singleton.mp h]; exact .refl⟩
        · rcases List.mem_append.mp hk with hk | hk
          · exact .inr ⟨n, by simp, .head hk h⟩
          · exact .inr ⟨k, List.mem_cons_of_mem _ hk, h⟩
      · intro hnd
        refine ih.nodup (List.nodup_append.mpr ⟨hnd, List.nodup_singleton n, ?_⟩)
        intro a ha b hb
        rw [List.mem_singleton.mp hb]
        exact fun he => hn (he ▸ ha)

theorem mem_reachableFrom_iff {root n : String} : n ∈ g.reachableFrom root ↔ root ∈ g.nodes ∧ g.Reaches root n := by
  unfold reachableFrom
  by_cases hr : root ∈ g.nodes
  · have hlen : (g.openEdges []).length ≤ g.edges.length := List.length_filter_le _ _
    have hv := visit_spec (g := g) (g.edges.length + 2) [root] [] (by rw [List.length_singleton]; omega)
    rw [if_pos (by simpa using hr)]
    constructor
    · intro hn
      rcases hv.sound n hn with h | ⟨m, hm, h⟩
      · cases h
      · rw [List.mem_singleton.mp hm] at h
        exact ⟨hr, h⟩
    · rintro ⟨-, h⟩
      induction h with
      | refl => exact hv.done (by simp)
      | tail _ hab ih => exact hv.closed _ ih (by simp) hab
  · rw [if_neg (by simpa using hr)]
    simp [hr]

theorem nodup_reachableFrom (root : String) : (g.reachableFrom root).Nodup := by
  unfold reachableFrom
  split
  · have hlen : (g.openEdges []).length ≤ g.edges.length := List.length_filter_le _ _
    exact (visit_spec (g := g) (g.edges.length + 2) [root] [] (by rw [List.length_singleton]; omega)).nodup List.nodup_nil
  · exact List.nodup_nil

theorem reachableFrom_closed {root a b : String} (ha : a ∈ g.reachableFrom root) (hab : b ∈ g.successors a) :
    b ∈ g.reachableFrom root := by
  rw [mem_reachableFrom_iff] at ha ⊢
  exact ⟨ha.1, ha.2.tail hab⟩

end FlowEngine.Graph
