import Mathlib
import FlowEngine.Run.State

/-!
# Delays before retries

The delay is the base doubled with each attempt, up to a limit. The count of
doublings is cut at sixteen and the product at 64 bits, but both cuts lie beyond
the limit, so nothing is lost by them (`backoff_eq_min`). Computed in words of 64
and 32 bits the delay is the same (`toNat_backoffWord`): no shift loses its bit, and
a product that does not fit is cut before it wraps.
-/

namespace FlowEngine

theorem le_mul_of_limit {base factor limit : Nat} (hbase : base ≠ 0) (h : limit ≤ factor) : limit ≤ base * factor :=
  h.trans (Nat.le_mul_of_pos_left factor (Nat.pos_of_ne_zero hbase))

theorem min_doublings (base k : Nat) :
    min (base * 2 ^ min k 16) Config.maxBackoffMs = min (base * 2 ^ k) Config.maxBackoffMs := by
  by_cases hk : k ≤ 16
  · rw [min_eq_left hk]
  · by_cases hbase : base = 0
    · rw [hbase, Nat.zero_mul, Nat.zero_mul]
    · have hk : 16 ≤ k := by omega
      have hfew : Config.maxBackoffMs ≤ 2 ^ 16 := by decide
      have hmany : Config.maxBackoffMs ≤ 2 ^ k := hfew.trans (Nat.pow_le_pow_right (by decide) hk)
      rw [min_eq_right hk, min_eq_right (le_mul_of_limit hbase hfew), min_eq_right (le_mul_of_limit hbase hmany)]

theorem backoff_eq_min (base attempt : Nat) :
    backoff base attempt = min (base * 2 ^ (attempt - 1)) Config.maxBackoffMs := by
  have hword : Config.maxBackoffMs ≤ nat64End - 1 := by decide
  calc backoff base attempt
      = min (min (base * 2 ^ min (attempt - 1) 16) (nat64End - 1)) Config.maxBackoffMs := rfl
    _ = min (base * 2 ^ min (attempt - 1) 16) Config.maxBackoffMs := by rw [min_assoc, min_eq_right hword]
    _ = min (base * 2 ^ (attempt - 1)) Config.maxBackoffMs := min_doublings base _

/-! ## In words -/

/-- The factor of the delay as a word: a bit is shifted once for each attempt before. -/
def backoffFactor (attempt : UInt32) : UInt64 :=
  let doublings := if attempt = 0 then 0 else attempt - 1
  1 <<< (if doublings ≤ 16 then doublings else 16).toUInt64

def backoffWord (base : UInt64) (attempt : UInt32) : UInt64 :=
  let factor := backoffFactor attempt
  let product := if BitVec.umulOverflow base.toBitVec factor.toBitVec then -1 else base * factor
  if product ≤ Config.maxBackoffMs.toUInt64 then product else Config.maxBackoffMs.toUInt64

theorem toNat_doublings (attempt : UInt32) : (if attempt = 0 then 0 else attempt - 1).toNat = attempt.toNat - 1 := by
  by_cases h : attempt = 0
  · simp [h]
  · have hpos : attempt.toNat ≠ 0 := fun h0 => h (UInt32.toNat_inj.mp h0)
    have hle : (1 : UInt32) ≤ attempt := UInt32.le_iff_toNat_le.mpr (Nat.pos_of_ne_zero hpos)
    rw [if_neg h, UInt32.toNat_sub_of_le _ _ hle]
    rfl

theorem toNat_backoffFactor (attempt : UInt32) :
    (backoffFactor attempt).toNat = 2 ^ min (attempt.toNat - 1) 16 := by
  unfold backoffFactor
  simp only
  rw [← toNat_doublings]
  generalize (if attempt = 0 then 0 else attempt - 1) = d
  have hcut : (if d ≤ 16 then d else 16).toNat = min d.toNat 16 := by
    split
    · rename_i h
      exact (min_eq_left (UInt32.le_iff_toNat_le.mp h)).symm
    · rename_i h
      rw [UInt32.le_iff_toNat_le] at h
      exact (min_eq_right (Nat.le_of_not_le h)).symm
  -- the shift stays below the width, so the bit stays in the word
  have hbit : min d.toNat 16 % 64 = min d.toNat 16 := Nat.mod_eq_of_lt (by omega)
  have hfit : 2 ^ min d.toNat 16 < 2 ^ 64 := Nat.pow_lt_pow_right (by decide) (by omega)
  rw [UInt64.toNat_shiftLeft, UInt32.toNat_toUInt64, hcut, hbit, UInt64.toNat_one, Nat.shiftLeft_eq, Nat.one_mul,
    Nat.mod_eq_of_lt hfit]

theorem toNat_cutProduct (a b : UInt64) :
    (if BitVec.umulOverflow a.toBitVec b.toBitVec then -1 else a * b).toNat = min (a.toNat * b.toNat) (nat64End - 1) := by
  have hlargest : (-1 : UInt64).toNat = nat64End - 1 := rfl
  have hend : nat64End = 2 ^ 64 := rfl
  simp only [BitVec.umulOverflow, UInt64.toNat_toBitVec, decide_eq_true_eq]
  split
  · rename_i h
    rw [hlargest, min_eq_right (by omega)]
  · rename_i h
    rw [UInt64.toNat_mul, Nat.mod_eq_of_lt (Nat.lt_of_not_le h), min_eq_left (by omega)]

theorem toNat_backoffWord (base : UInt64) (attempt : UInt32) :
    (backoffWord base attempt).toNat = backoff base.toNat attempt.toNat := by
  have hlimit : Config.maxBackoffMs.toUInt64.toNat = Config.maxBackoffMs := rfl
  have hproduct := toNat_cutProduct base (backoffFactor attempt)
  rw [toNat_backoffFactor] at hproduct
  unfold backoffWord
  simp only
  generalize (if BitVec.umulOverflow base.toBitVec (backoffFactor attempt).toBitVec then -1
    else base * backoffFactor attempt) = product at hproduct
  have hdelay : backoff base.toNat attempt.toNat = min product.toNat Config.maxBackoffMs := by
    rw [hproduct]
    rfl
  rw [hdelay]
  split
  · rename_i h
    exact (min_eq_left (UInt64.le_iff_toNat_le.mp h)).symm
  · rename_i h
    rw [UInt64.le_iff_toNat_le] at h
    exact hlimit.trans (min_eq_right (Nat.le_of_not_le h)).symm

/-- The delay is the base doubled once for each attempt before, in unbounded numbers, up to ten
seconds; words of 64 and 32 bits compute it without an overflow; and it grows with the base and
with the attempts. -/
theorem backoff_ideal :
    (∀ base attempt, backoff base attempt = min (base * 2 ^ (attempt - 1)) 10000) ∧
    (∀ (base : UInt64) (attempt : UInt32), (backoffWord base attempt).toNat = backoff base.toNat attempt.toNat) ∧
    (∀ attempt, Monotone fun base => backoff base attempt) ∧ ∀ base, Monotone (backoff base) := by
  refine ⟨backoff_eq_min, toNat_backoffWord, fun attempt a b h => ?_, fun base m n h => ?_⟩
  · simp only [backoff_eq_min]
    exact min_le_min_right _ (Nat.mul_le_mul_right _ h)
  · rw [backoff_eq_min, backoff_eq_min]
    have hpow : 2 ^ (m - 1) ≤ 2 ^ (n - 1) := Nat.pow_le_pow_right (by decide) (by omega)
    exact min_le_min_right _ (Nat.mul_le_mul_left _ hpow)

end FlowEngine
