import FlowEngine.Number.Shortest

/-!
# How floating-point numbers are written

A `NumberLayout` holds the decisions that differ between the two texts the
engine writes, JSON and flow documents; the digits are the shortest ones in
both.
-/

namespace FlowEngine

structure NumberLayout where
  /-- The lowest exponent of a leading digit that is written positionally. -/
  plainFrom : Int
  /-- The first exponent past the positional ones. -/
  plainBelow : Int
  /-- Whether a positive exponent carries a plus sign. -/
  plusSign : Bool
  tie : Tie

namespace NumberLayout

/-- JSON writes `0.00001` and `1e+16`. -/
def json : NumberLayout := ⟨-5, 16, true, .even⟩

/-- Documents write `0.0001`, `1e-5` and `1e16`. -/
def document : NumberLayout := ⟨-4, 16, false, .up⟩

/-- The digits of a positive decimal with its point placed among them. There is
always a digit on either side of the point. -/
def positional (ds : List Char) (exponent : Int) : List Char :=
  let n : Int := ds.length
  if 0 ≤ exponent then ds ++ List.replicate exponent.toNat '0' ++ ['.', '0']
  else if 0 < n + exponent then
    let k := (n + exponent).toNat
    ds.take k ++ '.' :: ds.drop k
  else '0' :: '.' :: (List.replicate (-(n + exponent)).toNat '0' ++ ds)

/-- One digit, the others after a point, and the exponent of the first. -/
def scientific (plusSign : Bool) (ds : List Char) (leading : Int) : List Char :=
  let head := ds.take 1 ++ (if ds.length ≤ 1 then [] else '.' :: ds.drop 1)
  let sign := if leading < 0 then ['-'] else if plusSign then ['+'] else []
  head ++ 'e' :: (sign ++ Nat.toDigits 10 leading.natAbs)

/-- The text of a positive decimal. -/
def decimal (l : NumberLayout) (d : Decimal) : List Char :=
  let ds := Nat.toDigits 10 d.coefficient
  let leading := d.exponent + ds.length - 1
  if l.plainFrom ≤ leading ∧ leading < l.plainBelow then positional ds d.exponent
  else scientific l.plusSign ds leading

/-- The text of a number. The result holds a point or an exponent unless the
number is infinite or NaN. -/
def write (l : NumberLayout) : Binary64 → String
  | .nan => "NaN"
  | .signed negative r =>
    let body :=
      if r.val = Binary64.infinityRank then "inf".toList
      else if r.val = 0 then "0.0".toList
      else l.decimal (Decimal.shortest l.tie r.val)
    String.ofList (if negative then '-' :: body else body)

end NumberLayout

end FlowEngine
