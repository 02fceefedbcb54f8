import FlowEngine.Number.Decimal

/-!
# The shortest decimal of a binary number

Of all decimals that read back as a given magnitude, `shortest` gives one with
the fewest digits, and of those the nearest. For each count of digits only the
two neighbours of the magnitude on that decimal grid need a test. When none of
17 counts serves, the exact expansion is given, so the result reads back in
every case.
-/

namespace FlowEngine

/-- Which of two equally near decimals is taken. -/
inductive Tie where
  | even
  | up
deriving DecidableEq, Repr

namespace Decimal

/-- The same number without trailing zeros in its coefficient. -/
def strip (d : Decimal) : Decimal :=
  if _h : d.coefficient ≠ 0 ∧ d.coefficient % 10 = 0 then
    strip { d with coefficient := d.coefficient / 10, exponent := d.exponent + 1 }
  else d
termination_by d.coefficient
decreasing_by omega

/-- The exponent `p` with `10 ^ p ≤ u / one < 10 ^ (p + 1)`, for a positive count
of units. -/
def leadingExponent (u : Nat) : Int :=
  if Binary64.one ≤ u then (width (u / Binary64.one) : Int) - 1
  else -(width ((Binary64.one - 1) / u) : Int)

/-- The whole number of grid steps `10 ^ e` in `u / one`, and the sign of what
the middle of the next step leaves: whether the rest is below, at or above half
a step. -/
def gridFloor (u : Nat) (e : Int) : Nat × Ordering :=
  let n := u * Nat.pow 10 (-e).toNat
  let d := Binary64.one * Nat.pow 10 e.toNat
  (n / d, compare (2 * (n % d)) d)

/-- Whether a decimal reads back as the magnitude of the given rank. -/
def readsBack (rank : Nat) (d : Decimal) : Bool :=
  match d.toBinary64 with
  | .signed _ r => r.val == rank
  | .nan => false

/-- The nearest decimal on the grid `10 ^ e` that reads back, if a neighbour of
the magnitude does. -/
def onGrid? (tie : Tie) (rank : Nat) (e : Int) : Option Decimal :=
  let (low, rest) := gridFloor (Binary64.units rank) e
  let preferLow := match rest, tie with
    | .lt, _ => true
    | .gt, _ => false
    | .eq, .even => low % 2 == 0
    | .eq, .up => false
  let below : Decimal := ⟨false, low, e⟩
  let above : Decimal := ⟨false, low + 1, e⟩
  let (first, second) := if preferLow then (below, above) else (above, below)
  if first.readsBack rank then some first
  else if second.readsBack rank then some second
  else none

/-- The magnitude written out in full. -/
def exact (rank : Nat) : Decimal := ⟨false, Binary64.units rank * Nat.pow 5 1074, -1074⟩

/-- The shortest decimal that reads back as the finite, positive magnitude of
the given rank. -/
def shortest (tie : Tie) (rank : Nat) : Decimal :=
  let p := leadingExponent (Binary64.units rank)
  let found := (List.range 17).findSome? fun (n : Nat) => onGrid? tie rank (p - n)
  (found.getD (exact rank)).strip

end Decimal

end FlowEngine
