import Mathlib
import FlowEngine.Number.Shortest

/-!
# Rounding decimals to binary numbers

`Binary64.nearestRank` looks at a quotient only through its value, so
`Decimal.toBinary64` gives the same for all decimals that write one number
(`toBinary64_shift`). A magnitude written out in full reads back as its rank,
and with that so does the shortest decimal (`shortest_toBinary64`).
-/

namespace FlowEngine

/-! ## Quotients -/

theorem roundHalfEven_mul {k : Nat} (hk : 0 < k) (n d : Nat) :
    roundHalfEven (k * n) (k * d) = roundHalfEven n d := by
  have h1 : (2 * (k * (n % d)) < k * d) = (2 * (n % d) < d) := by
    rw [Nat.mul_left_comm]; exact propext (Nat.mul_lt_mul_left hk)
  have h2 : (k * d < 2 * (k * (n % d))) = (d < 2 * (n % d)) := by
    rw [Nat.mul_left_comm 2]; exact propext (Nat.mul_lt_mul_left hk)
  simp only [roundHalfEven, Nat.mul_div_mul_left _ _ hk, Nat.mul_mod_mul_left, h1, h2]

theorem roundHalfEven_exact {d : Nat} (hd : 0 < d) (q : Nat) : roundHalfEven (q * d) d = q := by
  simp only [roundHalfEven, Nat.mul_mod_left, Nat.mul_div_cancel _ hd, Nat.mul_zero]
  rw [if_pos hd]

theorem Binary64.nearestRank_mul {k : Nat} (hk : 0 < k) (n d : Nat) :
    nearestRank (k * n) (k * d) = nearestRank n d := by
  simp only [nearestRank, Nat.mul_assoc, Nat.mul_div_mul_left _ _ hk, roundHalfEven_mul hk]

theorem Binary64.nearestRank_congr {n d n' d' : Nat} (hd : 0 < d) (hd' : 0 < d') (h : n * d' = n' * d) :
    nearestRank n d = nearestRank n' d' := by
  calc nearestRank n d = nearestRank (d' * n) (d' * d) := (nearestRank_mul hd' n d).symm
    _ = nearestRank (d * n') (d * d') := by rw [Nat.mul_comm d' n, h, Nat.mul_comm n' d, Nat.mul_comm d' d]
    _ = nearestRank n' d' := nearestRank_mul hd n' d'

theorem Binary64.ofRatio_congr {n d n' d' : Nat} (b : Bool) (hd : 0 < d) (hd' : 0 < d') (h : n * d' = n' * d) :
    ofRatio b n d = ofRatio b n' d' := by
  simp only [ofRatio, nearestRank_congr hd hd' h]

/-! ## Magnitudes in units -/

namespace Binary64

theorem one_pos : 0 < one := by decide +kernel

theorem binade_eq : binade = 2 ^ 52 := by decide

theorem units_pos {rank : Nat} (h : 0 < rank) : 0 < units rank := by
  unfold units; split
  · exact h
  · exact Nat.mul_pos (by simp [binade]) (Nat.pow_pos (by decide))

theorem units_lt {rank k : Nat} (h : rank / binade ≤ k + 1) : units rank < 2 ^ 53 * 2 ^ k := by
  have h53 : binade < 2 ^ 53 := by decide
  unfold units; split
  · rename_i hr
    exact Nat.lt_of_lt_of_le (Nat.lt_trans hr h53) (Nat.le_mul_of_pos_right _ (Nat.two_pow_pos k))
  · have hm : binade + rank % binade < 2 ^ 53 := by
      have := Nat.mod_lt rank (show 0 < binade by decide)
      simp only [binade] at *; omega
    have hp : 2 ^ (rank / binade - 1) ≤ 2 ^ k := Nat.pow_le_pow_right Nat.two_pos (by omega)
    exact Nat.lt_of_le_of_lt (Nat.mul_le_mul_left _ hp) (Nat.mul_lt_mul_of_pos_right hm (Nat.two_pow_pos k))

/-- A whole number of units is its own nearest magnitude. -/
theorem nearestRank_units (rank : Nat) : nearestRank (units rank) one = rank := by
  have hu : nearestRank (units rank) one =
      ((units rank).log2 - 52) * binade + roundHalfEven (units rank) (2 ^ ((units rank).log2 - 52)) := by
    have hp : ∀ k, Nat.pow 2 k = 2 ^ k := fun _ => rfl
    simp only [nearestRank, Nat.mul_div_cancel _ one_pos, hp]
    rw [Nat.mul_comm (units rank) one, roundHalfEven_mul one_pos]
  rw [hu]
  by_cases hr : rank < binade
  · have hl : rank.log2 - 52 = 0 := by
      rcases Nat.eq_zero_or_pos rank with h | h
      · subst h; rfl
      · have := (Nat.log2_lt (Nat.ne_of_gt h)).mpr (binade_eq ▸ hr); omega
    simp only [units, if_pos hr, hl, Nat.zero_mul, Nat.zero_add, Nat.pow_zero]
    simpa using roundHalfEven_exact Nat.one_pos rank
  · have hb : 0 < binade := by decide
    obtain ⟨k, hk⟩ : ∃ k, rank / binade = k + 1 :=
      ⟨rank / binade - 1, by have := Nat.div_pos (Nat.not_lt.mp hr) hb; omega⟩
    have he : units rank = (binade + rank % binade) * 2 ^ k := by
      simp only [units, if_neg hr, hk]; rfl
    have hlog : (units rank).log2 = 52 + k := by
      have hm := Nat.mod_lt rank hb
      have h0 : units rank ≠ 0 := Nat.ne_of_gt (units_pos (Nat.lt_of_lt_of_le hb (Nat.not_lt.mp hr)))
      rw [Nat.log2_eq_iff h0, he, Nat.add_right_comm, Nat.pow_add, Nat.pow_add]
      rw [binade_eq] at hm ⊢
      constructor
      · exact Nat.mul_le_mul_right _ (Nat.le_add_right _ _)
      · exact Nat.mul_lt_mul_of_pos_right (by omega) (Nat.two_pow_pos k)
    rw [hlog, Nat.add_sub_cancel_left, he, roundHalfEven_exact (Nat.two_pow_pos k)]
    have hsum := Nat.div_add_mod rank binade
    rw [hk, Nat.mul_succ, Nat.mul_comm] at hsum
    omega

end Binary64

/-! ## Decimals of one number -/

namespace Decimal

theorem width_le_iff {n k : Nat} : width n ≤ k ↔ n < 10 ^ k := by
  unfold width; split
  · rename_i h; subst h; simp
  · rename_i h
    rcases Nat.eq_zero_or_pos k with hk | hk
    · subst hk
      have := Nat.length_toDigits_pos (b := 10) (n := n)
      simp only [Nat.pow_zero]; omega
    · exact Nat.length_toDigits_le_iff (by decide) hk

theorem width_mul_pow {c : Nat} (hc : 0 < c) (j : Nat) : width (c * 10 ^ j) = width c + j := by
  apply Nat.le_antisymm
  · rw [width_le_iff, Nat.pow_add]
    exact Nat.mul_lt_mul_of_pos_right (width_le_iff.mp (Nat.le_refl _)) (Nat.pow_pos (by decide))
  · have h := width_le_iff.mp (Nat.le_refl (width (c * 10 ^ j)))
    have hj : j < width (c * 10 ^ j) := by
      refine (Nat.pow_lt_pow_iff_right (a := 10) (by decide)).mp (Nat.lt_of_le_of_lt ?_ h)
      exact Nat.le_mul_of_pos_left _ hc
    obtain ⟨m, hm⟩ : ∃ m, width (c * 10 ^ j) = m + j := ⟨_, (Nat.sub_add_cancel (Nat.le_of_lt hj)).symm⟩
    rw [hm, Nat.pow_add] at h
    rw [hm]
    exact Nat.add_le_add_right (width_le_iff.mpr (Nat.lt_of_mul_lt_mul_right h)) j

theorem toBinary64_shift (b : Bool) (c : Nat) (e : Int) (j : Nat) :
    toBinary64 ⟨b, c * 10 ^ j, e - j⟩ = toBinary64 ⟨b, c, e⟩ := by
  rcases Nat.eq_zero_or_pos c with hc | hc
  · subst hc; simp [toBinary64]
  have h0 : c * 10 ^ j ≠ 0 := Nat.ne_of_gt (Nat.mul_pos hc (Nat.pow_pos (by decide)))
  have htop : ((width c + j : Nat) : Int) + (e - j) = width c + e := by push_cast; omega
  have hp : ∀ k, Nat.pow 10 k = 10 ^ k := fun _ => rfl
  have hpos : ∀ k, 0 < 10 ^ k := fun k => Nat.pow_pos (by decide)
  simp only [toBinary64, if_neg h0, if_neg (Nat.ne_of_gt hc), width_mul_pow hc, htop, hp]
  rw [Binary64.ofRatio_congr b (hpos _) (hpos _)]
  rw [Nat.mul_assoc, Nat.mul_assoc, Nat.mul_assoc, ← Nat.pow_add, ← Nat.pow_add, ← Nat.pow_add]
  congr 2; omega

theorem toBinary64_strip (d : Decimal) : d.strip.toBinary64 = d.toBinary64 := by
  rw [strip]; split
  · rename_i h
    rw [toBinary64_strip]
    obtain ⟨b, c, e⟩ := d
    have hc : c = c / 10 * 10 ^ 1 := by simp only at h; omega
    have he : e = e + 1 - (1 : Nat) := by omega
    conv_rhs => rw [hc, he]
    exact (toBinary64_shift b (c / 10) (e + 1) 1).symm
  · rfl
termination_by d.coefficient
decreasing_by simp_all; omega

theorem toBinary64_signed (d : Decimal) : ∃ r, ∀ b, toBinary64 { d with negative := b } = .signed b r := by
  unfold toBinary64
  by_cases h0 : d.coefficient = 0
  · exact ⟨0, fun b => by simp [h0, Binary64.zero]⟩
  by_cases h1 : (width d.coefficient : Int) + d.exponent < -330
  · exact ⟨0, fun b => by simp [h0, h1, Binary64.zero]⟩
  by_cases h2 : 310 < (width d.coefficient : Int) + d.exponent
  · exact ⟨_, fun b => by simp only [h0, h1, h2, if_false, if_true]; rfl⟩
  · exact ⟨_, fun b => by simp only [h0, h1, h2, if_false]; rfl⟩

/-! ## The shortest decimal -/

theorem readsBack_iff {rank : Nat} {d : Decimal} (h : rank < Binary64.infinityRank + 1) :
    readsBack rank d = true ↔ ∀ b, toBinary64 { d with negative := b } = .signed b ⟨rank, h⟩ := by
  obtain ⟨r, hr⟩ := toBinary64_signed d
  have hd : d.toBinary64 = .signed d.negative r := hr d.negative
  simp only [readsBack, hd, hr, beq_iff_eq, Binary64.signed.injEq, true_and, Fin.ext_iff]
  exact ⟨fun h _ => h, fun h => h true⟩

theorem toBinary64_of_width {b : Bool} {c : Nat} {e : Int} (hc : 0 < c) (h1 : -330 ≤ width c + e)
    (h2 : width c + e ≤ 310) : toBinary64 ⟨b, c, e⟩ = .ofRatio b (c * Nat.pow 10 e.toNat) (Nat.pow 10 (-e).toNat) := by
  simp only [toBinary64]
  rw [if_neg (Nat.ne_of_gt hc), if_neg (by omega), if_neg (by omega)]

theorem readsBack_exact {rank : Nat} (h0 : 0 < rank) (h : rank < Binary64.infinityRank) :
    readsBack rank (exact rank) = true := by
  have hu := Binary64.units_pos h0
  have h5 : 0 < Nat.pow 5 1074 := by decide +kernel
  have hlow : 743 < width (Binary64.units rank * Nat.pow 5 1074) := by
    rw [← Nat.not_le, width_le_iff, Nat.not_lt]
    have : 10 ^ 743 ≤ Nat.pow 5 1074 := by decide +kernel
    exact Nat.le_trans this (Nat.le_mul_of_pos_left _ hu)
  have hhigh : width (Binary64.units rank * Nat.pow 5 1074) ≤ 1384 := by
    have hk : rank / Binary64.binade ≤ 2045 + 1 := by
      simp only [Binary64.infinityRank, Binary64.binade] at *; omega
    rw [width_le_iff]
    refine Nat.lt_trans (Nat.mul_lt_mul_of_pos_right (Binary64.units_lt hk) h5) ?_
    decide +kernel
  have hr : Binary64.nearestRank (Binary64.units rank * Nat.pow 5 1074 * Nat.pow 10 (-1074 : Int).toNat)
      (Nat.pow 10 (-(-1074 : Int)).toNat) = rank := by
    have h1 : Nat.pow 5 1074 * Nat.pow 10 (-1074 : Int).toNat * Binary64.one
        = Nat.pow 10 (-(-1074 : Int)).toNat := by decide +kernel
    have hscale {n a b c d : Nat} (h : a * b * c = d) : n * a * b * c = n * d := by
      rw [← h, Nat.mul_assoc, Nat.mul_assoc, Nat.mul_assoc]
    exact (Binary64.nearestRank_congr (by decide +kernel) Binary64.one_pos (hscale h1)).trans
      (Binary64.nearestRank_units rank)
  have he : (exact rank).toBinary64 = .ofRatio false _ _ :=
    toBinary64_of_width (Nat.mul_pos hu h5) (by omega) (by omega)
  rw [readsBack, he]
  simp only [Binary64.ofRatio, hr, Nat.min_eq_left (Nat.le_of_lt h), beq_self_eq_true]

theorem readsBack_of_onGrid {tie : Tie} {rank : Nat} {e : Int} {d : Decimal} (h : onGrid? tie rank e = some d) :
    readsBack rank d = true := by
  have key : ∀ p : Decimal × Decimal, (if readsBack rank p.1 then some p.1
      else if readsBack rank p.2 then some p.2 else none) = some d → readsBack rank d = true := by
    intro p hp
    split at hp
    · rename_i h1; cases hp; exact h1
    · split at hp
      · rename_i h2; cases hp; exact h2
      · cases hp
  unfold onGrid? at h
  generalize gridFloor (Binary64.units rank) e = g at h
  exact key _ h

theorem readsBack_strip (rank : Nat) (d : Decimal) : readsBack rank d.strip = readsBack rank d := by
  rw [readsBack, readsBack, toBinary64_strip]

theorem readsBack_found (tie : Tie) {rank : Nat} (h0 : 0 < rank) (h : rank < Binary64.infinityRank) (p : Int) :
    readsBack rank (((List.range 17).findSome? fun (n : Nat) => onGrid? tie rank (p - n)).getD (exact rank))
      = true := by
  cases hf : (List.range 17).findSome? fun (n : Nat) => onGrid? tie rank (p - n) with
  | none => exact readsBack_exact h0 h
  | some d =>
    obtain ⟨n, _, hn⟩ := List.exists_of_findSome?_eq_some hf
    exact readsBack_of_onGrid hn

theorem shortest_toBinary64 (tie : Tie) {rank : Nat} (h0 : 0 < rank) (h : rank < Binary64.infinityRank)
    (b : Bool) : toBinary64 { shortest tie rank with negative := b } = .signed b ⟨rank, by omega⟩ := by
  have hb : readsBack rank (shortest tie rank) = true := by
    unfold shortest
    generalize leadingExponent (Binary64.units rank) = p
    exact (readsBack_strip rank _).trans (readsBack_found tie h0 h p)
  exact (readsBack_iff (by omega)).mp hb b

end Decimal

end FlowEngine
