import Mathlib
import FlowEngine.Placeholder.Resolver
import FlowEngine.Proofs.Number.Integer
import FlowEngine.Proofs.Number.Numeral

/-!
# Integers in placeholders

Conditions and the filter `int` take integers of 64 bits for binary numbers.
`integers_nearest` says what they make of them: a condition sees the values
nearest to two integers, and so takes two neighbours of one value for equal,
and `int` gives the value nearest to the integer that a text writes. Up to
`2 ^ 53` these are the integers (`Binary64.nearestInt_of_le`).
-/

namespace FlowEngine

/-! ## Reading whole numerals -/

theorem readUnsigned?_digits (b : Bool) {ds : List Char} (hd : AllDigits ds) (hne : ds ≠ []) :
    Decimal.readUnsigned? b ds = some ⟨b, digitsValue ds, 0⟩ := by
  have ht : ds.takeWhile Char.isDigit = ds := by simpa using Text.takeWhile_span hd (Text.stops_nil)
  have hr : ds.dropWhile Char.isDigit = [] := by simpa using Text.dropWhile_span hd (Text.stops_nil)
  simp [Decimal.readUnsigned?, ht, hr, hne, Decimal.readExponent?]

theorem readBinary64?_digits {cs ds : List Char} {b : Bool} (hs : splitSign cs = (b, ds)) (hd : AllDigits ds)
    (hne : ds ≠ []) : readBinary64? cs = some (Decimal.toBinary64 ⟨b, digitsValue ds, 0⟩) := by
  obtain ⟨c, r, hc⟩ := List.exists_cons_of_ne_nil hne
  have hdig : c.isDigit = true := hd c (by simp [hc])
  unfold readBinary64?
  rw [hs]
  have h1 := NumberLayout.ofList_lower_ne hc hdig (s := "inf") (by simp)
  have h2 := NumberLayout.ofList_lower_ne hc hdig (s := "infinity") (by simp)
  have h3 := NumberLayout.ofList_lower_ne hc hdig (s := "nan") (by simp)
  simp only [h1, h2, h3, or_self, if_false, readUnsigned?_digits b hd hne, Option.map_some]

theorem toBinary64_whole {b : Bool} {n : Nat} (h : n ≤ 2 ^ 63) (h0 : n = 0 → b = false) :
    Decimal.toBinary64 ⟨b, n, 0⟩ = .ofRatio b n 1 := by
  obtain rfl | hn := Nat.eq_zero_or_pos n
  · rw [h0 rfl]
    decide +kernel
  · have hw : Decimal.width n ≤ 19 := Decimal.width_le_iff.mpr (h.trans_lt (by decide))
    rw [Decimal.toBinary64_of_width hn (by omega) (by omega)]
    exact Binary64.ofRatio_congr b (by decide) (by decide) (by simp [Nat.pow_eq])

theorem readBinary64?_toString {i : Int} (h : isInt64 i = true) :
    readBinary64? (toString i).toList = some (.ofInt i) := by
  have hd := allDigits_toDigits i.natAbs
  have hs : splitSign (toString i).toList = (decide (i < 0), Nat.toDigits 10 i.natAbs) := by
    rw [toList_toString_int]
    split_ifs with hi
    · rw [decide_eq_true hi]; rfl
    · rw [decide_eq_false hi, splitSign_digits hd]
  rw [readBinary64?_digits hs hd Nat.toDigits_ne_nil, digitsValue_toDigits,
    toBinary64_whole (Binary64.natAbs_le_of_isInt64 h) (by simp_all)]
  rfl

theorem not_isBlank_of_isDigit {c : Char} (h : c.isDigit = true) : Text.isBlank c = false := by
  simp only [Char.isDigit, Bool.and_eq_true, decide_eq_true_eq] at h
  have h1 : 48 ≤ c.toNat := h.1
  have h2 : c.toNat ≤ 57 := h.2
  simp [Text.isBlank]
  omega

theorem trim_toString (i : Int) : Text.trim (toString i).toList = (toString i).toList := by
  have hb : ∀ c ∈ (toString i).toList, Text.isBlank c = false := by
    intro c hc
    have hc : c = '-' ∨ c ∈ Nat.toDigits 10 i.natAbs := by
      rw [toList_toString_int] at hc
      split_ifs at hc
      · exact List.mem_cons.mp hc
      · exact .inr hc
    obtain rfl | hc := hc
    · decide
    · exact not_isBlank_of_isDigit (allDigits_toDigits _ c hc)
  refine Text.trim_of_trimmed ⟨fun c hc => hb c (List.mem_of_mem_head? hc), fun c hc => hb c ?_⟩
  exact List.mem_reverse.mp (List.mem_of_mem_head? hc)

theorem readNumeral?_toString {i : Int} (h : isInt64 i = true) : Json.readNumeral? (toString i) = some (.ofInt i) := by
  rw [Json.readNumeral?, trim_toString, readBinary64?_toString h]

/-! ## Comparisons of integers -/

open Binary64 (nearestInt)

/-- The relation of integers that a comparison is named for. -/
def Comparison.Relates : Comparison → Int → Int → Prop
  | .eq => (· = ·)
  | .ne => (· ≠ ·)
  | .gt => (· > ·)
  | .lt => (· < ·)
  | .ge => (· ≥ ·)
  | .le => (· ≤ ·)

instance (op : Comparison) (m n : Int) : Decidable (op.Relates m n) :=
  match op with
  | .eq => inferInstanceAs (Decidable (m = n))
  | .ne => inferInstanceAs (Decidable (m ≠ n))
  | .gt => inferInstanceAs (Decidable (m > n))
  | .lt => inferInstanceAs (Decidable (m < n))
  | .ge => inferInstanceAs (Decidable (m ≥ n))
  | .le => inferInstanceAs (Decidable (m ≤ n))

theorem Comparison.relates_congr {i j m n : Int} (h : compare i j = compare m n) (op : Comparison) :
    op.Relates i j ↔ op.Relates m n := by
  obtain hmn | rfl | hmn := lt_trichotomy m n
  · have hij : i < j := compare_lt_iff_lt.mp (h.trans (compare_lt_iff_lt.mpr hmn))
    cases op <;> simp only [Relates] <;> omega
  · obtain rfl : i = j := compare_eq_iff_eq.mp (h.trans (compare_eq_iff_eq.mpr rfl))
    cases op <;> simp [Relates]
  · have hij : i > j := compare_gt_iff_gt.mp (h.trans (compare_gt_iff_gt.mpr hmn))
    cases op <;> simp only [Relates] <;> omega

namespace Resolver

theorem compares_int {m n : Int} (hm : isInt64 m = true) (hn : isInt64 n = true) (op : Comparison) :
    compares op (.int m) (.int n) ↔ op.Relates (nearestInt m) (nearestInt n) := by
  have hc : (Json.int m).compare? (.int n) = some (compare (nearestInt m) (nearestInt n)) :=
    Binary64.compare?_ofInt hm hn
  have he : (Json.int m).looselyEqual (.int n) = (some (compare (nearestInt m) (nearestInt n)) == some .eq) :=
    congrArg (· == some Ordering.eq) hc
  have hx : ∀ x y : Int, (some (compare x y) == some Ordering.eq) = decide (x = y) := by
    intro x y
    rw [Bool.eq_iff_iff]
    simp
  cases op <;> simp only [compares, hc, he, hx, Comparison.Relates, Option.any_some, Bool.not_eq_true',
    decide_eq_true_eq, decide_eq_false_iff_not, Ordering.isLT_iff_eq_lt, Ordering.isGT_iff_eq_gt,
    Int.compare_eq_lt, Int.compare_eq_gt, Int.isLE_compare, Int.isGE_compare, ge_iff_le, gt_iff_lt, ne_eq]

theorem compares_int_exact_iff {m n : Int} (hm : isInt64 m = true) (hn : isInt64 n = true) :
    (∀ op : Comparison, compares op (.int m) (.int n) ↔ op.Relates m n) ↔ m = n ∨ nearestInt m ≠ nearestInt n := by
  simp only [compares_int hm hn]
  constructor
  · intro h
    have he : nearestInt m = nearestInt n ↔ m = n := h .eq
    by_cases hmn : m = n
    · exact .inl hmn
    · exact .inr (mt he.mp hmn)
  · intro h op
    refine Comparison.relates_congr ?_ op
    obtain hmn | rfl | hmn := lt_trichotomy m n
    · have hlt := (Binary64.nearestInt_mono hmn.le).lt_of_ne (h.resolve_left hmn.ne)
      rw [compare_lt_iff_lt.mpr hlt, compare_lt_iff_lt.mpr hmn]
    · rw [compare_eq_iff_eq.mpr rfl, compare_eq_iff_eq.mpr rfl]
    · have hgt := (Binary64.nearestInt_mono hmn.le).lt_of_ne (h.resolve_left hmn.ne').symm
      rw [compare_gt_iff_gt.mpr hgt, compare_gt_iff_gt.mpr hmn]

end Resolver

/-! ## The filter for integers -/

theorem Filter.apply_int_toString {n : Int} (h : isInt64 n = true) (args : List Json) :
    Filter.apply "int" (.string (toString n)) args = .ok (.int (min (nearestInt n) (int64End - 1))) := by
  have hrun : Filter.apply "int" (.string (toString n)) args = Filter.toInt (.string (toString n)) := rfl
  rw [hrun, Filter.toInt]
  simp only [readNumeral?_toString h, Binary64.toInt64_ofInt h]

/-- Of integers of 64 bits, conditions and the filter `int` see the values
nearest to them: neighbours of one value are equal, and a text gives the
integer that it writes when that is such a value or the last one. -/
theorem Resolver.integers_nearest {m n : Int} (hm : isInt64 m = true) (hn : isInt64 n = true) :
    (∀ op : Comparison, compares op (.int m) (.int n) ↔ op.Relates (nearestInt m) (nearestInt n)) ∧
    ((∀ op : Comparison, compares op (.int m) (.int n) ↔ op.Relates m n) ↔
      m = n ∨ nearestInt m ≠ nearestInt n) ∧
    (∀ args, Filter.apply "int" (.string (toString n)) args = .ok (.int (min (nearestInt n) (int64End - 1)))) ∧
    (∀ args, Filter.apply "int" (.string (toString n)) args = .ok (.int n) ↔
      nearestInt n = n ∨ n = int64End - 1) := by
  refine ⟨compares_int hm hn, compares_int_exact_iff hm hn, Filter.apply_int_toString hn, fun args => ?_⟩
  have hlast : nearestInt (int64End - 1) = int64End := by decide
  have hle : n ≤ int64End - 1 := by
    have hr : -int64End ≤ n ∧ n < int64End := of_decide_eq_true hn
    omega
  rw [Filter.apply_int_toString hn, Except.ok.injEq, Json.int, Json.int, Json.number.injEq, Json.Number.int.injEq]
  constructor
  · intro h
    obtain hmin | hmin := min_choice (nearestInt n) (int64End - 1)
    · exact .inl (hmin.symm.trans h)
    · exact .inr (h.symm.trans hmin)
  · rintro (h | rfl)
    · rw [h, min_eq_left hle]
    · rw [hlast, min_eq_right (by omega)]

theorem Resolver.integers_nearest_small :
    compares .lt (.int (-3)) (.int 2) ∧ Filter.apply "int" (.string "2") [] = .ok (.int 2) := by
  have h := integers_nearest (m := -3) (n := 2) (by decide) (by decide)
  have htwo : nearestInt 2 = 2 := Binary64.nearestInt_of_le (by decide)
  have hne : nearestInt (-3) ≠ nearestInt 2 := by
    rw [htwo, Binary64.nearestInt_of_le (by decide)]
    decide
  exact ⟨(h.2.1.mpr (.inr hne) .lt).mpr (by decide), (h.2.2.2 []).mpr (.inl htwo)⟩

/-- `2 ^ 53` and the integer after it are equal, and the text of the second is
read as the first. -/
theorem Resolver.integers_inexact :
    compares .eq (.int 9007199254740992) (.int 9007199254740993) ∧
      Filter.apply "int" (.string "9007199254740993") [] = .ok (.int 9007199254740992) := by
  refine ⟨(compares_int (by decide) (by decide) .eq).mpr (by decide), ?_⟩
  have hn : min (nearestInt 9007199254740993) (int64End - 1) = 9007199254740992 := by decide
  have ht : toString (9007199254740993 : Int) = "9007199254740993" := by decide
  have h := Filter.apply_int_toString (n := 9007199254740993) (by decide) []
  rwa [hn, ht] at h

end FlowEngine
