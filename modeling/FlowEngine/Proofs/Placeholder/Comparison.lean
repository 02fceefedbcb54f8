import Mathlib
import FlowEngine.Placeholder.Resolver

/-!
# The order of conditions

Two texts stand in the order of their characters; two numbers, and a number and
a text, in the order of the numbers. Each of the two is a linear order, so the
laws of one hold as long as no comparison of texts meets a comparison of
numbers: `compares_coherent` says what is left of them where the two meet.
-/

namespace FlowEngine

open Std (TransCmp LawfulEqCmp OrientedCmp)

/-! ## Texts -/

namespace Text

theorem compare_char (a b : Char) : compare a b = compare a.toNat b.toNat := by
  obtain h | rfl | h := lt_trichotomy a b
  · rw [compare_lt_iff_lt.mpr h, compare_lt_iff_lt.mpr (Char.lt_def.mp h)]
  · simp only [compare_eq_iff_eq.mpr]
  · rw [compare_gt_iff_gt.mpr h, compare_gt_iff_gt.mpr (Char.lt_def.mp h)]

theorem order_eq_compareLex : order = List.compareLex compare := by
  funext s t
  induction s generalizing t with
  | nil => cases t <;> rfl
  | cons a s ih =>
    cases t with
    | nil => rfl
    | cons b t => rw [order, List.compareLex_cons_cons, ih, compare_char]

instance : TransCmp order := order_eq_compareLex ▸ inferInstance

instance : LawfulEqCmp order := order_eq_compareLex ▸ inferInstance

end Text

/-! ## Numbers -/

/-- The place of a number on the line. NaN has none. -/
def Binary64.place? : Binary64 → Option Int
  | .nan => none
  | .signed s r => some (place s r.val)

theorem Binary64.compare?_eq (x y : Binary64) :
    x.compare? y = x.place?.bind fun i => y.place?.map fun j => compare i j := by
  cases x <;> cases y <;> rfl

/-! ## Values -/

namespace Json

/-- The place of a number, or of a text that reads as one. -/
def place? : Json → Option Int
  | .number n => n.toBinary64.place?
  | .string s => (readNumeral? s).bind Binary64.place?
  | _ => none

theorem compare?_eq_place? {a b : Json} (h : a.asString? = none ∨ b.asString? = none) :
    a.compare? b = a.place?.bind fun i => b.place?.map fun j => compare i j := by
  cases a with
  | number m =>
    cases b with
    | number n => exact Binary64.compare?_eq _ _
    | string t =>
      simp only [compare?, place?]
      cases hr : readNumeral? t with
      | none => cases m.toBinary64.place? <;> rfl
      | some y => exact Binary64.compare?_eq _ _
    | _ => simp only [compare?, place?, Option.map_none, Option.bind_fun_none]
  | string s =>
    cases b with
    | number n =>
      simp only [compare?, place?]
      cases hr : readNumeral? s with
      | none => rfl
      | some x => exact Binary64.compare?_eq _ _
    | string t => simp [asString?] at h
    | _ => simp only [compare?, place?, Option.map_none, Option.bind_fun_none]
  | _ => rfl

theorem compare?_lt_iff {a b : Json} (h : a.asString? = none ∨ b.asString? = none) :
    a.compare? b = some .lt ↔ ∃ i j, a.place? = some i ∧ b.place? = some j ∧ i < j := by
  simp only [compare?_eq_place? h, Option.bind_eq_some_iff, Option.map_eq_some_iff, compare_lt_iff_lt]
  exact ⟨fun ⟨i, hi, j, hj, he⟩ => ⟨i, j, hi, hj, he⟩, fun ⟨i, j, hi, hj, he⟩ => ⟨i, hi, j, hj, he⟩⟩

theorem text_or_not (a : Json) : (∃ s, a = .string s) ∨ a.asString? = none := by
  cases a <;> simp [asString?]

theorem compare?_swap (a b : Json) : a.compare? b = (b.compare? a).map Ordering.swap := by
  by_cases h : a.asString? = none ∨ b.asString? = none
  · rw [compare?_eq_place? h, compare?_eq_place? h.symm]
    cases a.place? <;> cases b.place? <;>
      simp only [Option.bind_none, Option.bind_some, Option.map_none, Option.map_some, Option.some.injEq]
    exact OrientedCmp.eq_swap
  · obtain ⟨ha, hb⟩ := not_or.mp h
    obtain ⟨s, rfl⟩ := a.text_or_not.resolve_right ha
    obtain ⟨t, rfl⟩ := b.text_or_not.resolve_right hb
    exact congrArg some OrientedCmp.eq_swap

/-- One of two values is a number, the other a text. -/
def Mixed (a b : Json) : Prop := ∃ n s, [a, b].Perm [.number n, .string s]

theorem eq_of_looselyEqual {a b : Json} {o : Ordering} (he : a.looselyEqual b = true)
    (hc : a.compare? b = some o) : o = .eq := by
  cases a with
  | number m =>
    cases b with
    | number n =>
      have he : m.toBinary64.compare? n.toBinary64 = some .eq := by simpa [looselyEqual, Binary64.same] using he
      exact Option.some.inj (hc.symm.trans he)
    | _ => cases he
  | string s =>
    cases b with
    | string t =>
      obtain rfl : s = t := by simpa [looselyEqual, same] using he
      exact (Option.some.inj hc).symm.trans (LawfulEqCmp.compare_eq_iff_eq.mpr rfl)
    | _ => cases he
  | _ => cases hc

theorem looselyEqual_of_compare? {a b : Json} (hm : ¬Mixed a b) (hc : a.compare? b = some .eq) :
    a.looselyEqual b = true := by
  cases a with
  | number m =>
    cases b with
    | number n =>
      have hc : m.toBinary64.compare? n.toBinary64 = some .eq := hc
      simp [looselyEqual, Binary64.same, hc]
    | string t => exact absurd ⟨m, t, List.Perm.refl _⟩ hm
    | _ => cases hc
  | string s =>
    cases b with
    | number n => exact absurd ⟨n, s, List.Perm.swap _ _ _⟩ hm
    | string t =>
      have : s.toList = t.toList := LawfulEqCmp.compare_eq_iff_eq.mp (Option.some.inj hc)
      simpa [looselyEqual, same] using String.toList_inj.mp this
    | _ => cases hc
  | _ => cases hc

/-! ## Texts that read as numbers -/

/-- Two texts read as numbers that are equal or stand as the texts do. -/
def InStep (s t : String) : Prop :=
  ∃ i j, place? (.string s) = some i ∧ place? (.string t) = some j ∧
    (i = j ∨ compare i j = Text.order s.toList t.toList)

instance (s t : String) : Decidable (InStep s t) :=
  decidable_of_iff ((place? (.string s)).any fun i => (place? (.string t)).any fun j =>
      i = j ∨ compare i j = Text.order s.toList t.toList)
    (by simp [InStep, Option.any_eq_true])

/-- Two of three values are texts that are not in step, the other is a number. -/
def OutOfStep (a b c : Json) : Prop :=
  ∃ s t n, [a, b, c].Perm [.string s, .string t, .number n] ∧ ¬InStep s t

theorem number_of_place? {a : Json} {i : Int} (ha : a.asString? = none) (hi : a.place? = some i) :
    ∃ n, a = .number n := by
  cases a with
  | number n => exact ⟨n, rfl⟩
  | string s => cases ha
  | _ => cases hi

theorem InStep.le {s t : String} (h : InStep s t) (hc : (string s).compare? (.string t) = some .lt) :
    ∃ i j, place? (.string s) = some i ∧ place? (.string t) = some j ∧ i ≤ j := by
  obtain ⟨i, j, hi, hj, h⟩ := h
  refine ⟨i, j, hi, hj, ?_⟩
  obtain h | h := h
  · exact h.le
  · exact (compare_lt_iff_lt.mp (h.trans (Option.some.inj hc))).le

theorem InStep.lt {s t : String} (h : InStep s t) {i j : Int} (hi : place? (.string s) = some i)
    (hj : place? (.string t) = some j) (hij : i < j) : (string s).compare? (.string t) = some .lt := by
  obtain ⟨i', j', hi', hj', h⟩ := h
  obtain rfl := Option.some.inj (hi.symm.trans hi')
  obtain rfl := Option.some.inj (hj.symm.trans hj')
  exact congrArg some ((h.resolve_left hij.ne).symm.trans (compare_lt_iff_lt.mpr hij))

theorem compare?_lt_trans {a b c : Json} (ho : ¬OutOfStep a b c) (hab : a.compare? b = some .lt)
    (hbc : b.compare? c = some .lt) : a.compare? c = some .lt := by
  have instep {s t n} (hp : [a, b, c].Perm [.string s, .string t, .number n]) : InStep s t :=
    not_not.mp fun h => ho ⟨s, t, n, hp, h⟩
  obtain ⟨t, rfl⟩ | hb := b.text_or_not
  · obtain ⟨s, rfl⟩ | ha := a.text_or_not
    · obtain ⟨u, rfl⟩ | hc := c.text_or_not
      · exact congrArg some (TransCmp.lt_trans (Option.some.inj hab) (Option.some.inj hbc))
      · obtain ⟨j, k, hj, hk, hjk⟩ := (compare?_lt_iff (.inr hc)).mp hbc
        obtain ⟨n, rfl⟩ := number_of_place? hc hk
        obtain ⟨i, j', hi, hj', hij⟩ := (instep (.refl _)).le hab
        obtain rfl := Option.some.inj (hj.symm.trans hj')
        exact (compare?_lt_iff (.inr hc)).mpr ⟨i, k, hi, hk, hij.trans_lt hjk⟩
    · obtain ⟨i, j, hi, hj, hij⟩ := (compare?_lt_iff (.inl ha)).mp hab
      obtain ⟨u, rfl⟩ | hc := c.text_or_not
      · obtain ⟨n, rfl⟩ := number_of_place? ha hi
        have hp : [number n, string t, string u].Perm [string t, string u, number n] :=
          (List.Perm.swap _ _ _).trans ((List.Perm.swap _ _ _).cons _)
        obtain ⟨j', k, hj', hk, hjk⟩ := (instep hp).le hbc
        obtain rfl := Option.some.inj (hj.symm.trans hj')
        exact (compare?_lt_iff (.inl ha)).mpr ⟨i, k, hi, hk, hij.trans_le hjk⟩
      · obtain ⟨j', k, hj', hk, hjk⟩ := (compare?_lt_iff (.inr hc)).mp hbc
        obtain rfl := Option.some.inj (hj.symm.trans hj')
        exact (compare?_lt_iff (.inl ha)).mpr ⟨i, k, hi, hk, hij.trans hjk⟩
  · obtain ⟨i, j, hi, hj, hij⟩ := (compare?_lt_iff (.inr hb)).mp hab
    obtain ⟨j', k, hj', hk, hjk⟩ := (compare?_lt_iff (.inl hb)).mp hbc
    obtain rfl := Option.some.inj (hj.symm.trans hj')
    obtain ⟨s, rfl⟩ | ha := a.text_or_not
    · obtain ⟨u, rfl⟩ | hc := c.text_or_not
      · obtain ⟨n, rfl⟩ := number_of_place? hb hj
        exact (instep ((List.Perm.swap _ _ _).cons _)).lt hi hk (hij.trans hjk)
      · exact (compare?_lt_iff (.inr hc)).mpr ⟨i, k, hi, hk, hij.trans hjk⟩
    · exact (compare?_lt_iff (.inl ha)).mpr ⟨i, k, hi, hk, hij.trans hjk⟩

end Json

/-! ## Conditions -/

namespace Resolver

theorem compares_lt_iff (a b : Json) : compares .lt a b ↔ a.compare? b = some .lt := by
  simp [compares, Option.any_eq_true, Ordering.isLT_iff_eq_lt]

theorem compares_gt_iff (a b : Json) : compares .gt a b ↔ a.compare? b = some .gt := by
  simp [compares, Option.any_eq_true, Ordering.isGT_iff_eq_gt]

theorem compares_ge_le {a b : Json} (hg : compares .ge a b) (hl : compares .le a b) : a.compare? b = some .eq := by
  obtain ⟨o, ho, hg⟩ := (Option.any_eq_true _ _).mp hg
  obtain ⟨o', ho', hl⟩ := (Option.any_eq_true _ _).mp hl
  obtain rfl := Option.some.inj (ho.symm.trans ho')
  cases o with
  | lt => cases hg
  | eq => exact ho
  | gt => cases hl

/-- The laws of an order, with two exceptions: a number and a text are never
equal, and two texts beside a number stand as texts while each of them stands
to the number as the number it reads as. -/
theorem compares_coherent (a b c : Json) :
    (compares .lt a b ↔ compares .gt b a) ∧
    (compares .lt a b → ¬compares .eq a b) ∧
    (¬Json.Mixed a b → compares .ge a b → compares .le a b → compares .eq a b) ∧
    (¬Json.OutOfStep a b c → compares .lt a b → compares .lt b c → compares .lt a c) := by
  refine ⟨?_, ?_, ?_, ?_⟩
  · rw [compares_lt_iff, compares_gt_iff, Json.compare?_swap]
    cases b.compare? a with
    | none => simp
    | some o => cases o <;> simp
  · intro hlt heq
    cases Json.eq_of_looselyEqual heq ((compares_lt_iff a b).mp hlt)
  · intro hm hg hl
    exact Json.looselyEqual_of_compare? hm (compares_ge_le hg hl)
  · simp only [compares_lt_iff]
    exact Json.compare?_lt_trans

theorem compares_coherent_digits :
    compares .eq (.int 2) (.int 2) ∧ compares .lt (.string "1") (.string "3") := by
  have mixed : ¬Json.Mixed (.int 2) (.int 2) := by
    rintro ⟨n, s, hp⟩
    simpa [Json.int] using hp.mem_iff.mpr (show Json.string s ∈ [.number n, .string s] by simp)
  have instep : Json.InStep "1" "3" ∧ Json.InStep "3" "1" := by decide +kernel
  have outOfStep : ¬Json.OutOfStep (.string "1") (.int 2) (.string "3") := by
    rintro ⟨s, t, n, hp, hnot⟩
    have htexts : ["1", "3"].Perm [s, t] := hp.filterMap Json.asString?
    obtain rfl | rfl : s = "1" ∨ s = "3" := by simpa using htexts.mem_iff.mpr (show s ∈ [s, t] by simp)
    · obtain rfl : "3" = t := by simpa using htexts
      exact hnot instep.1
    · obtain rfl : "1" = t := by simpa using (List.Perm.swap "1" "3" []).trans htexts
      exact hnot instep.2
  have compared : (compares .ge (.int 2) (.int 2) ∧ compares .le (.int 2) (.int 2)) ∧
      compares .lt (.string "1") (.int 2) ∧ compares .lt (.int 2) (.string "3") := by decide +kernel
  exact ⟨(compares_coherent (.int 2) (.int 2) .null).2.2.1 mixed compared.1.1 compared.1.2,
    (compares_coherent (.string "1") (.int 2) (.string "3")).2.2.2 outOfStep compared.2.1 compared.2.2⟩

/-- The number 5 and the text are at least and at most each other and not equal,
and `"10"` stands before `"9"`, and that before 10, but not `"10"` before 10. -/
theorem compares_incoherent :
    (compares .ge (.int 5) (.string "5") ∧ compares .le (.int 5) (.string "5") ∧
      ¬compares .eq (.int 5) (.string "5")) ∧
    (compares .lt (.string "10") (.string "9") ∧ compares .lt (.string "9") (.int 10) ∧
      ¬compares .lt (.string "10") (.int 10)) := by
  decide +kernel

end Resolver

end FlowEngine
