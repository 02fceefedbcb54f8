import Mathlib
import FlowEngine.Proofs.Number.Rounding

/-!
# Integers as binary numbers

A binary number holds 53 significant bits. `nearestInt` is the integer that is
left of one with more of them, and the value nearest to an integer of 64 bits is
that integer: it stands to the others as `nearestInt` does (`compare?_ofInt`) and
is cut back to it (`toInt64_ofInt`).
-/

namespace FlowEngine

/-! ## Rounding to a multiple -/

theorem roundHalfEven_mono {m n : Nat} (h : m ≤ n) (d : Nat) : roundHalfEven m d ≤ roundHalfEven n d := by
  have hq : m / d ≤ n / d := Nat.div_le_div_right h
  unfold roundHalfEven
  obtain hq | hq := hq.lt_or_eq
  · dsimp only
    split_ifs <;> omega
  · have hr : m % d ≤ n % d := by
      have hm := Nat.div_add_mod m d
      have hn := Nat.div_add_mod n d
      rw [hq] at hm
      omega
    dsimp only
    split_ifs <;> omega

theorem roundHalfEven_le {n a d : Nat} (hd : 0 < d) (h : n ≤ a * d) : roundHalfEven n d ≤ a :=
  (roundHalfEven_mono h d).trans_eq (roundHalfEven_exact hd a)

theorem le_roundHalfEven {n a d : Nat} (hd : 0 < d) (h : a * d ≤ n) : a ≤ roundHalfEven n d :=
  (roundHalfEven_exact hd a).symm.trans_le (roundHalfEven_mono h d)

namespace Binary64

/-- How far apart the values around a whole number are, as a power of two. -/
def spacing (n : Nat) : Nat := n.log2 - 52

def nearestWhole (n : Nat) : Nat := roundHalfEven n (2 ^ spacing n) * 2 ^ spacing n

theorem nearestWhole_of_dvd {n : Nat} (h : 2 ^ spacing n ∣ n) : nearestWhole n = n := by
  obtain ⟨q, hq⟩ := h
  rw [Nat.mul_comm] at hq
  unfold nearestWhole
  conv_lhs => enter [1, 1]; rw [hq]
  rw [roundHalfEven_exact (Nat.two_pow_pos _), ← hq]

theorem nearestWhole_eq_iff (n : Nat) : nearestWhole n = n ↔ 2 ^ spacing n ∣ n :=
  ⟨fun h => Dvd.intro_left _ h, nearestWhole_of_dvd⟩

theorem nearestWhole_of_le {n : Nat} (h : n ≤ 2 ^ 53) : nearestWhole n = n := by
  apply nearestWhole_of_dvd
  obtain h | rfl := h.lt_or_eq
  · have hs : spacing n = 0 := by
      obtain rfl | h0 := Nat.eq_zero_or_pos n
      · decide
      · have := (Nat.log2_lt h0.ne').mpr h
        unfold spacing
        omega
    rw [hs]
    exact one_dvd n
  · decide

theorem two_pow_le_nearestWhole {n : Nat} (h : n ≠ 0) : 2 ^ n.log2 ≤ nearestWhole n := by
  have hs : spacing n ≤ n.log2 := Nat.sub_le _ _
  have hp : 2 ^ n.log2 = 2 ^ (n.log2 - spacing n) * 2 ^ spacing n := by
    rw [← Nat.pow_add, Nat.sub_add_cancel hs]
  have hn : 2 ^ n.log2 ≤ n := Nat.log2_self_le h
  rw [hp] at hn ⊢
  exact Nat.mul_le_mul_right _ (le_roundHalfEven (Nat.two_pow_pos _) hn)

theorem nearestWhole_le_two_pow (n : Nat) : nearestWhole n ≤ 2 ^ (n.log2 + 1) := by
  have hs : spacing n ≤ n.log2 + 1 := (Nat.sub_le _ _).trans (Nat.le_succ _)
  have hp : 2 ^ (n.log2 + 1) = 2 ^ (n.log2 + 1 - spacing n) * 2 ^ spacing n := by
    rw [← Nat.pow_add, Nat.sub_add_cancel hs]
  have hn : n ≤ 2 ^ (n.log2 + 1) := Nat.lt_log2_self.le
  rw [hp] at hn ⊢
  exact Nat.mul_le_mul_right _ (roundHalfEven_le (Nat.two_pow_pos _) hn)

theorem nearestWhole_mono : Monotone nearestWhole := by
  intro m n h
  obtain rfl | hm := Nat.eq_zero_or_pos m
  · exact Nat.zero_le _
  have hn : n ≠ 0 := (hm.trans_le h).ne'
  have hl : m.log2 ≤ n.log2 := (Nat.le_log2 hn).mpr ((Nat.log2_self_le hm.ne').trans h)
  obtain hl | hl := hl.lt_or_eq
  · -- a power of two lies between the two
    calc nearestWhole m ≤ 2 ^ (m.log2 + 1) := nearestWhole_le_two_pow m
      _ ≤ 2 ^ n.log2 := Nat.pow_le_pow_right Nat.two_pos hl
      _ ≤ nearestWhole n := two_pow_le_nearestWhole hn
  · have hs : spacing m = spacing n := congrArg (· - 52) hl
    unfold nearestWhole
    rw [hs]
    exact Nat.mul_le_mul_right _ (roundHalfEven_mono h _)

/-- Rounding looks at the significant bits alone. -/
theorem nearestWhole_mul_two_pow (n j : Nat) : nearestWhole (n * 2 ^ j) = nearestWhole n * 2 ^ j := by
  obtain rfl | h0 := Nat.eq_zero_or_pos n
  · simp [nearestWhole, roundHalfEven]
  have hl : (n * 2 ^ j).log2 = n.log2 + j := by
    have hpos : n * 2 ^ j ≠ 0 := (Nat.mul_pos h0 (Nat.two_pow_pos j)).ne'
    rw [Nat.log2_eq_iff hpos, Nat.add_right_comm, Nat.pow_add, Nat.pow_add _ _ j]
    exact ⟨Nat.mul_le_mul_right _ (Nat.log2_self_le h0.ne'),
      Nat.mul_lt_mul_of_pos_right Nat.lt_log2_self (Nat.two_pow_pos j)⟩
  by_cases hs : n.log2 < 52
  · -- few bits: both are exact
    have hn : n ≤ 2 ^ 53 :=
      Nat.lt_log2_self.le.trans (Nat.pow_le_pow_right Nat.two_pos (by omega))
    rw [nearestWhole_of_le hn]
    apply nearestWhole_of_dvd
    have hj : spacing (n * 2 ^ j) ≤ j := by
      unfold spacing
      omega
    exact (Nat.pow_dvd_pow 2 hj).mul_left n
  · have hsp : spacing (n * 2 ^ j) = spacing n + j := by
      unfold spacing
      omega
    unfold nearestWhole
    rw [hsp, Nat.pow_add, Nat.mul_comm n, Nat.mul_comm (2 ^ spacing n), roundHalfEven_mul (Nat.two_pow_pos j)]
    ring

/-! ## Ranks and their values -/

theorem units_scaled {k q : Nat} (h : k = 0 ∨ binade ≤ q) (hq : q ≤ 2 * binade) :
    units (k * binade + q) = q * 2 ^ k := by
  have hp : ∀ k, Nat.pow 2 k = 2 ^ k := fun _ => rfl
  unfold units
  obtain hlt | hle := Nat.lt_or_ge q binade
  · obtain rfl : k = 0 := h.resolve_right (Nat.not_le.mpr hlt)
    rw [Nat.zero_mul, Nat.zero_add, if_pos hlt, Nat.pow_zero, Nat.mul_one]
  · rw [if_neg (by omega), hp]
    obtain hlt | rfl := hq.lt_or_eq
    · have hd : (k * binade + q) / binade = k + 1 := by simp only [binade] at *; omega
      have hm : (k * binade + q) % binade = q - binade := by simp only [binade] at *; omega
      rw [hd, hm, Nat.add_sub_cancel' hle, Nat.add_sub_cancel]
    · have hd : (k * binade + 2 * binade) / binade = k + 2 := by simp only [binade]; omega
      have hm : (k * binade + 2 * binade) % binade = 0 := by simp only [binade]; omega
      rw [hd, hm, Nat.add_zero, show k + 2 - 1 = k + 1 from rfl, Nat.pow_succ']
      ring

theorem rank_eq_scaled (rank : Nat) :
    ∃ k q, rank = k * binade + q ∧ (k = 0 ∨ binade ≤ q) ∧ q < 2 * binade := by
  obtain h | h := Nat.lt_or_ge rank binade
  · exact ⟨0, rank, by omega, .inl rfl, by omega⟩
  · refine ⟨rank / binade - 1, binade + rank % binade, ?_, .inr (Nat.le_add_right _ _), ?_⟩ <;>
      (simp only [binade] at *; omega)

theorem units_strictMono : StrictMono units := by
  refine strictMono_nat_of_lt_succ fun rank => ?_
  obtain ⟨k, q, rfl, h, hq⟩ := rank_eq_scaled rank
  rw [Nat.add_assoc, units_scaled h hq.le, units_scaled (h.imp_right (·.trans (Nat.le_succ q))) hq]
  exact Nat.mul_lt_mul_of_pos_right (Nat.lt_succ_self q) (Nat.two_pow_pos k)

theorem units_nearestRank (n : Nat) : units (nearestRank n 1) = nearestWhole n * one := by
  have hp : ∀ k, Nat.pow 2 k = 2 ^ k := fun _ => rfl
  have hr : nearestRank n 1 =
      spacing (n * one) * binade + roundHalfEven (n * one) (2 ^ spacing (n * one)) := by
    simp only [nearestRank, spacing, Nat.div_one, Nat.one_mul, hp]
  have hhigh : roundHalfEven (n * one) (2 ^ spacing (n * one)) ≤ 2 * binade := by
    apply roundHalfEven_le (Nat.two_pow_pos _)
    rw [binade_eq, ← Nat.pow_succ', ← Nat.pow_add]
    exact Nat.lt_log2_self.le.trans (Nat.pow_le_pow_right Nat.two_pos (by unfold spacing; omega))
  have hlow : spacing (n * one) = 0 ∨ binade ≤ roundHalfEven (n * one) (2 ^ spacing (n * one)) := by
    refine or_iff_not_imp_left.mpr fun hs => le_roundHalfEven (Nat.two_pow_pos _) ?_
    have hl : (n * one).log2 = 52 + spacing (n * one) := by unfold spacing at *; omega
    have h0 : n * one ≠ 0 := fun h => hs (by rw [h]; rfl)
    rw [binade_eq, ← Nat.pow_add, ← hl]
    exact Nat.log2_self_le h0
  obtain ⟨j, hj⟩ : ∃ j, one = Nat.pow 2 j := ⟨1074, by decide +kernel⟩
  rw [hr, units_scaled hlow hhigh, hj, hp]
  exact nearestWhole_mul_two_pow n j

/-! ## Signs -/

def withSign (f : Nat → Nat) (i : Int) : Int := i.sign * f i.natAbs

section
variable {f : Nat → Nat}

theorem withSign_neg (i : Int) : withSign f (-i) = -withSign f i := by
  rw [withSign, withSign, Int.sign_neg, Int.natAbs_neg, Int.neg_mul]

theorem withSign_natCast (h0 : f 0 = 0) (n : Nat) : withSign f n = f n := by
  obtain rfl | hn := Nat.eq_zero_or_pos n
  · simp [withSign, h0]
  · rw [withSign, Int.sign_natCast_of_ne_zero hn.ne', Int.one_mul, Int.natAbs_natCast]

theorem withSign_place (h0 : f 0 = 0) (negative : Bool) (n : Nat) :
    withSign f (place negative n) = place negative (f n) := by
  cases negative with
  | false => exact withSign_natCast h0 n
  | true => exact (withSign_neg n).trans (congrArg _ (withSign_natCast h0 n))

theorem withSign_strictMono (h0 : f 0 = 0) (hf : StrictMono f) : StrictMono (withSign f) := by
  refine strictMono_of_odd_strictMonoOn_nonneg withSign_neg ?_
  intro i hi j hj hij
  lift i to Nat using hi
  lift j to Nat using hj
  rw [withSign_natCast h0, withSign_natCast h0, Int.ofNat_lt]
  exact hf (Int.ofNat_lt.mp hij)

theorem withSign_mono (h0 : f 0 = 0) (hf : Monotone f) : Monotone (withSign f) := by
  refine monotone_of_odd_of_monotoneOn_nonneg withSign_neg ?_
  intro i hi j hj hij
  lift i to Nat using hi
  lift j to Nat using hj
  rw [withSign_natCast h0, withSign_natCast h0, Int.ofNat_le]
  exact hf (Int.ofNat_le.mp hij)

end

/-- The value nearest to an integer. -/
def nearestInt : Int → Int := withSign nearestWhole

theorem nearestInt_mono : Monotone nearestInt := withSign_mono rfl nearestWhole_mono

/-- An integer is a value just when it is a whole number of steps between the values around it. -/
theorem nearestInt_eq_iff (i : Int) : nearestInt i = i ↔ 2 ^ spacing i.natAbs ∣ i.natAbs := by
  rw [← nearestWhole_eq_iff]
  obtain rfl | hi := eq_or_ne i 0
  · simp [nearestInt, withSign, nearestWhole_of_le]
  · have hs : i.sign ≠ 0 := mt Int.sign_eq_zero_iff_zero.mp hi
    conv_lhs => rhs; rw [← Int.sign_mul_natAbs i]
    rw [nearestInt, withSign, Int.mul_eq_mul_left_iff hs, Int.ofNat_inj]

theorem nearestInt_of_le {i : Int} (h : i.natAbs ≤ 2 ^ 53) : nearestInt i = i :=
  (nearestInt_eq_iff i).mpr ((nearestWhole_eq_iff _).mp (nearestWhole_of_le h))

theorem place_nearestWhole (i : Int) (c : Nat) :
    place (decide (i < 0)) (nearestWhole i.natAbs * c) = nearestInt i * c := by
  unfold place nearestInt withSign
  obtain hi | rfl | hi := lt_trichotomy i 0
  · rw [decide_eq_true hi, if_pos rfl, Int.sign_eq_neg_one_of_neg hi]
    push_cast
    ring
  · simp [nearestWhole, roundHalfEven]
  · rw [decide_eq_false (not_lt.mpr hi.le), if_neg Bool.false_ne_true, Int.sign_eq_one_of_pos hi]
    push_cast
    ring

/-! ## Integers of 64 bits -/

theorem natAbs_le_of_isInt64 {i : Int} (h : isInt64 i = true) : i.natAbs ≤ 2 ^ 63 := by
  have h : -int64End ≤ i ∧ i < int64End := of_decide_eq_true h
  unfold int64End at h
  omega

theorem nearestWhole_le_of_isInt64 {i : Int} (h : isInt64 i = true) : nearestWhole i.natAbs ≤ 2 ^ 63 := by
  have he : nearestWhole (2 ^ 63) = 2 ^ 63 := by decide
  exact (nearestWhole_mono (natAbs_le_of_isInt64 h)).trans_eq he

theorem nearestRank_lt {i : Int} (h : isInt64 i = true) : nearestRank i.natAbs 1 < infinityRank := by
  rw [← units_strictMono.lt_iff_lt, units_nearestRank]
  refine (Nat.mul_le_mul_right one (nearestWhole_le_of_isInt64 h)).trans_lt ?_
  decide +kernel

theorem ofInt_eq {i : Int} (h : isInt64 i = true) :
    ofInt i = .signed (decide (i < 0)) ⟨nearestRank i.natAbs 1, (nearestRank_lt h).trans (Nat.lt_succ_self _)⟩ := by
  simp only [ofInt, ofRatio, Nat.min_eq_left (nearestRank_lt h).le]

theorem compare_place (s t : Bool) (a b : Nat) :
    compare (place s a) (place t b) = compare (place s (units a)) (place t (units b)) := by
  have h0 : units 0 = 0 := rfl
  rw [← withSign_place h0, ← withSign_place h0, ← cmp_eq_compare, ← cmp_eq_compare,
    (withSign_strictMono h0 units_strictMono).cmp_map_eq]

theorem compare?_ofInt {i j : Int} (hi : isInt64 i = true) (hj : isInt64 j = true) :
    (ofInt i).compare? (ofInt j) = some (compare (nearestInt i) (nearestInt j)) := by
  have hone : StrictMono fun x : Int => x * one := strictMono_mul_right_of_pos (Int.ofNat_lt.mpr one_pos)
  rw [ofInt_eq hi, ofInt_eq hj, compare?, compare_place, units_nearestRank, units_nearestRank,
    place_nearestWhole, place_nearestWhole, ← cmp_eq_compare, hone.cmp_map_eq, cmp_eq_compare]

theorem toInt64_ofInt {i : Int} (h : isInt64 i = true) : (ofInt i).toInt64 = min (nearestInt i) (int64End - 1) := by
  have hp := place_nearestWhole i 1
  have hle := nearestWhole_le_of_isInt64 h
  simp only [Nat.mul_one, Nat.cast_one, Int.mul_one, place] at hp
  rw [ofInt_eq h, toInt64, units_nearestRank, Nat.mul_div_cancel _ one_pos, ← hp]
  simp only [int64End]
  split_ifs <;> omega

end Binary64

end FlowEngine
