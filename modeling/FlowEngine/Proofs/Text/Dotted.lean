import Mathlib
import FlowEngine.Text.Basic

/-!
# Dotted texts taken apart

The segments of a text are what stands between its dots (`splitDots_eq`), so they are put
together again by dots, and no segment holds one. A text is cut at each of its dots, from
the first on (`mem_cutsAtDots`, `cutsAtDots_sorted`).
-/

namespace FlowEngine.Text

theorem splitDots_eq (cs : List Char) : splitDots cs = cs.splitOn '.' := by
  induction cs with
  | nil => rfl
  | cons c cs ih =>
    have hne := List.splitOnP_ne_nil (· == '.') cs
    rw [List.splitOn, List.splitOnP_cons_eq_if_modifyHead, ← List.splitOn, ← ih]
    rw [← List.splitOn, ← ih] at hne
    by_cases h : c = '.'
    · subst h
      simp [splitDots]
    · cases hs : splitDots cs with
      | nil => exact absurd hs hne
      | cons s ss => simp [splitDots, hs, h]

theorem intercalate_splitDots (cs : List Char) : ['.'].intercalate (splitDots cs) = cs := by
  rw [splitDots_eq, List.intercalate_splitOn]

theorem splitDots_intercalate {ss : List (List Char)} (h : ∀ s ∈ ss, '.' ∉ s) (hne : ss ≠ []) :
    splitDots (['.'].intercalate ss) = ss := by
  rw [splitDots_eq, List.splitOn_intercalate '.' h hne]

theorem splitDots_ne_nil (cs : List Char) : splitDots cs ≠ [] := by
  rw [splitDots_eq]
  exact List.splitOnP_ne_nil _ cs

theorem not_mem_splitDots {cs s : List Char} (h : s ∈ splitDots cs) : '.' ∉ s := by
  induction cs generalizing s with
  | nil =>
    rw [splitDots, List.mem_singleton] at h
    simp [h]
  | cons c cs ih =>
    by_cases hc : c = '.'
    · subst hc
      rw [splitDots, List.mem_cons] at h
      obtain rfl | h := h
      · simp
      · exact ih h
    · cases hs : splitDots cs with
      | nil => exact absurd hs (splitDots_ne_nil cs)
      | cons t ts =>
        simp only [splitDots, hs, List.mem_cons] at h ih
        obtain rfl | h := h
        · simpa [Ne.symm hc] using ih (.inl rfl)
        · exact ih (.inr h)

theorem cutsAtDots_cons (c : Char) (cs : List Char) : cutsAtDots (c :: cs) =
    if c = '.' then ([], cs) :: (cutsAtDots cs).map (fun p => (c :: p.1, p.2))
    else (cutsAtDots cs).map fun p => (c :: p.1, p.2) := rfl

theorem mem_cutsAtDots {cs a b : List Char} : (a, b) ∈ cutsAtDots cs ↔ cs = a ++ '.' :: b := by
  induction cs generalizing a with
  | nil => simp [cutsAtDots]
  | cons c cs ih =>
    have hlater : (a, b) ∈ (cutsAtDots cs).map (fun p => (c :: p.1, p.2)) ↔ ∃ a', a = c :: a' ∧ cs = a' ++ '.' :: b := by
      simp only [List.mem_map, Prod.mk.injEq, Prod.exists]
      constructor
      · rintro ⟨x, y, hm, rfl, rfl⟩
        exact ⟨x, rfl, ih.mp hm⟩
      · rintro ⟨a', rfl, hcs⟩
        exact ⟨a', b, ih.mpr hcs, rfl, rfl⟩
    rw [cutsAtDots_cons]
    split_ifs with hc
    · subst hc
      rw [List.mem_cons, hlater]
      cases a with
      | nil => simp [eq_comm]
      | cons x a => simp [eq_comm]
    · rw [hlater]
      cases a with
      | nil => simp [hc]
      | cons x a => simp [eq_comm]

theorem cutsAtDots_sorted (cs : List Char) : (cutsAtDots cs).Pairwise fun p q => p.1.length < q.1.length := by
  induction cs with
  | nil => exact .nil
  | cons c cs ih =>
    have hlater : ((cutsAtDots cs).map fun p => (c :: p.1, p.2)).Pairwise fun p q => p.1.length < q.1.length := by
      rw [List.pairwise_map]
      apply ih.imp
      intro p q hlt
      simpa using hlt
    rw [cutsAtDots_cons]
    split_ifs
    · apply List.Pairwise.cons _ hlater
      intro q hq
      obtain ⟨p, -, rfl⟩ := List.mem_map.mp hq
      simp
    · exact hlater

/-- The cuts from the longest first part on: those before a cut are longer, those after it shorter. -/
theorem reverse_cutsAtDots {cs : List Char} {as bs : List (List Char × List Char)} {cut : List Char × List Char}
    (h : (cutsAtDots cs).reverse = as ++ cut :: bs) :
    (∀ p ∈ as, cut.1.length < p.1.length) ∧ ∀ p ∈ bs, p.1.length < cut.1.length := by
  have hsorted := List.pairwise_reverse.mpr (cutsAtDots_sorted cs)
  rw [h, List.pairwise_append, List.pairwise_cons] at hsorted
  obtain ⟨-, ⟨hbs, -⟩, has⟩ := hsorted
  exact ⟨fun p hp => has p hp cut (by simp), hbs⟩

end FlowEngine.Text
