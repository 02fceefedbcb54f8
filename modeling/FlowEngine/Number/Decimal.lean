import FlowEngine.Number.Binary64

/-!
# Decimal numerals

A `Decimal` is a sign with a whole number of powers of ten. This module reads
one from text, reads integers of 64 bits, and gives the binary value nearest
to a decimal.
-/

namespace FlowEngine

/-! ## Digits -/

/-- The number a row of decimal digits writes. -/
def digitsValue (ds : List Char) : Nat :=
  ds.foldl (fun n d => 10 * n + (d.toNat - '0'.toNat)) 0

/-- A row of one or more digits and nothing else. -/
def readDigits? (cs : List Char) : Option Nat :=
  if !cs.isEmpty && cs.all Char.isDigit then some (digitsValue cs) else none

/-- An optional sign, and what follows it. -/
def splitSign : List Char → Bool × List Char
  | '-' :: cs => (true, cs)
  | '+' :: cs => (false, cs)
  | cs => (false, cs)

/-- An integer of 64 bits with an optional sign. -/
def readInt64? (cs : List Char) : Option Int :=
  let (negative, ds) := splitSign cs
  (readDigits? ds).bind fun n =>
    let i : Int := if negative then -n else n
    if isInt64 i then some i else none

/-- A natural number of 64 bits; a plus sign may precede it. -/
def readNat64? : List Char → Option Nat
  | '+' :: cs => (readDigits? cs).filter (· < nat64End)
  | cs => (readDigits? cs).filter (· < nat64End)

/-! ## Decimals -/

/-- The number `± coefficient * 10 ^ exponent`. -/
structure Decimal where
  negative : Bool
  coefficient : Nat
  exponent : Int
deriving DecidableEq, Repr

namespace Decimal

/-- How many digits a positive number has; 0 has none. -/
def width (n : Nat) : Nat := if n = 0 then 0 else (Nat.toDigits 10 n).length

/-- The binary value nearest to a decimal. Decimals that are far outside the
range of finite magnitudes are settled by their order of magnitude alone. -/
def toBinary64 (d : Decimal) : Binary64 :=
  if d.coefficient = 0 then .zero d.negative
  else
    let top := width d.coefficient + d.exponent
    if top < -330 then .zero d.negative
    else if 310 < top then .infinity d.negative
    else .ofRatio d.negative (d.coefficient * Nat.pow 10 d.exponent.toNat)
      (Nat.pow 10 (-d.exponent).toNat)

/-- The exponent part of a numeral: nothing, or an `e` and an integer. -/
def readExponent? : List Char → Option Int
  | [] => some 0
  | c :: cs =>
    if c = 'e' ∨ c = 'E' then
      let (negative, ds) := splitSign cs
      (readDigits? ds).map fun n => if negative then -n else n
    else none

/-- Digits with an optional point among them and an optional exponent after
them. At least one digit stands before or after the point. -/
def readUnsigned? (negative : Bool) (cs : List Char) : Option Decimal :=
  let whole := cs.takeWhile Char.isDigit
  let rest := cs.dropWhile Char.isDigit
  let (fraction, tail) := match rest with
    | '.' :: r => (r.takeWhile Char.isDigit, r.dropWhile Char.isDigit)
    | r => ([], r)
  if whole.isEmpty && fraction.isEmpty then none
  else (readExponent? tail).map fun e =>
    ⟨negative, digitsValue (whole ++ fraction), e - fraction.length⟩

end Decimal

/-- A floating-point numeral: an optional sign, then a decimal or one of the
names of infinity and NaN in any case. -/
def readBinary64? (cs : List Char) : Option Binary64 :=
  let (negative, body) := splitSign cs
  let name := String.ofList (body.map Char.toLower)
  if name = "inf" ∨ name = "infinity" then some (.infinity negative)
  else if name = "nan" then some .nan
  else (Decimal.readUnsigned? negative body).map Decimal.toBinary64

end FlowEngine
