/-!
# Binary floating-point numbers

A `Binary64` is NaN or a sign with a magnitude. A magnitude is the rank of a
value among the non-negative ones: zero has rank 0, the smallest positive
number rank 1, infinity the last rank. Order is then the order of ranks, and
rounding picks a rank.

All arithmetic is exact arithmetic on `Nat` followed by one rounding to the
nearest value, ties to the even rank.
-/

namespace FlowEngine

/-! ## Where the integers of 32 and 64 bits end -/

/-- The first natural number that needs more than 32 bits. -/
def nat32End : Nat := 4294967296

/-- The first natural number that needs more than 64 bits. -/
def nat64End : Nat := 18446744073709551616

/-- The first integer past the signed ones of 64 bits. -/
def int64End : Int := 9223372036854775808

def isInt64 (i : Int) : Bool := decide (-int64End ≤ i ∧ i < int64End)

/-! ## Values -/

/-- The rank of infinity, one past the largest finite magnitude. -/
def Binary64.infinityRank : Nat := 0x7FF0000000000000

inductive Binary64 where
  | nan
  | signed (negative : Bool) (rank : Fin (Binary64.infinityRank + 1))
deriving DecidableEq, Repr

/-! ## Quotients rounded to the nearest integer -/

/-- `n / d` rounded to the nearest integer, a half going to the even neighbour. -/
def roundHalfEven (n d : Nat) : Nat :=
  let q := n / d
  let r := n % d
  if 2 * r < d then q
  else if d < 2 * r then q + 1
  else q + q % 2

namespace Binary64

/-! ## Magnitudes -/

/-- `2 ^ 52`, the count of ranks in a binade. -/
def binade : Nat := 4503599627370496

/-- How many times `2 ^ -1074`, the smallest positive magnitude, a finite
magnitude is. -/
def units (rank : Nat) : Nat :=
  if rank < binade then rank
  else (binade + rank % binade) * Nat.pow 2 (rank / binade - 1)

/-- The number of units in one. -/
def one : Nat := Nat.pow 2 1074

/-- The rank nearest to `n / d`, where the ranks past the last finite one all
mean infinity. With `k` the binade of the quotient, consecutive ranks lie
`2 ^ k` units apart. -/
def nearestRank (n d : Nat) : Nat :=
  let k := (n * one / d).log2 - 52
  k * binade + roundHalfEven (n * one) (d * Nat.pow 2 k)

/-- A sign with the magnitude nearest to `n / d`. -/
def ofRatio (negative : Bool) (n d : Nat) : Binary64 :=
  .signed negative ⟨min (nearestRank n d) infinityRank, by omega⟩

/-- The value nearest to an integer. -/
def ofInt (i : Int) : Binary64 := ofRatio (decide (i < 0)) i.natAbs 1

def zero (negative : Bool) : Binary64 := .signed negative 0

def infinity (negative : Bool) : Binary64 := .signed negative ⟨infinityRank, by decide⟩

def isFinite : Binary64 → Bool
  | .nan => false
  | .signed _ r => decide (r.val < infinityRank)

def neg : Binary64 → Binary64
  | .nan => .nan
  | .signed s r => .signed (!s) r

/-! ## Order -/

/-- The place of a value on the line; both zeros are at 0. -/
def place (negative : Bool) (rank : Nat) : Int := if negative then -rank else rank

/-- Numeric comparison. NaN compares with nothing. -/
def compare? : Binary64 → Binary64 → Option Ordering
  | .signed s a, .signed t b => some (compare (place s a.val) (place t b.val))
  | _, _ => none

/-- Numeric equality: the zeros are equal and NaN equals nothing. -/
def same (a b : Binary64) : Bool := a.compare? b == some .eq

/-! ## Integers -/

/-- Whether the value has no fractional part. -/
def isWhole : Binary64 → Bool
  | .nan => false
  | .signed _ r => decide (r.val < infinityRank) && units r.val % one == 0

/-- The integer left when the fraction is dropped, held within `[-2^63, 2^63)`.
NaN gives 0. -/
def toInt64 : Binary64 → Int
  | .nan => 0
  | .signed s r =>
    if s then max (-(units r.val / one : Nat)) (-int64End)
    else min (units r.val / one : Nat) (int64End - 1)

/-! ## Products and quotients -/

/-- The product rounded once; neither side is an infinity or NaN. -/
def mulFinite (a b : Binary64) : Binary64 :=
  match a, b with
  | .signed s x, .signed t y => ofRatio (s != t) (units x.val * units y.val) (one * one)
  | _, _ => .nan

/-- The quotient rounded once; the divisor is finite and not zero. -/
def divFinite (a b : Binary64) : Binary64 :=
  match a, b with
  | .signed s x, .signed t y => ofRatio (s != t) (units x.val) (units y.val)
  | _, _ => .nan

end Binary64

end FlowEngine
