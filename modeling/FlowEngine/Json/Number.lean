import FlowEngine.Number.Layout

/-!
# JSON numbers

A number is an integer of 64 bits, signed or unsigned, or a finite
floating-point number. Text that fits an integer is one; every other numeral is
floating-point.

Reading a floating-point numeral keeps the digits that fit 64 bits, takes the
binary value nearest to them and scales it by a power of ten that is itself
rounded, so a numeral of many digits may land beside its nearest value.
-/

namespace FlowEngine

inductive Json.Number where
  | int (i : Int)
  | float (x : Binary64)
deriving DecidableEq, Repr

namespace Json.Number

/-- The integer, if it is one of the signed range. -/
def toInt64? : Number → Option Int
  | .int i => if isInt64 i then some i else none
  | .float _ => none

def toBinary64 : Number → Binary64
  | .int i => .ofInt i
  | .float x => x

/-- Equality that keeps integers apart from floating-point numbers. -/
def same : Number → Number → Bool
  | .int i, .int j => i == j
  | .float x, .float y => x.same y
  | _, _ => false

def text : Number → String
  | .int i => toString i
  | .float x => NumberLayout.json.write x

/-- A floating-point number if the value is finite. -/
def ofBinary64? (x : Binary64) : Option Number :=
  if x.isFinite then some (.float x) else none

/-! ## Reading -/

/-- Append digits to a number for as long as it stays below `2 ^ 64`. Gives the
number, how many digits it took and the digits left over. -/
def takeFitting (n : Nat) : List Char → Nat × Nat × List Char
  | [] => (n, 0, [])
  | d :: ds =>
    let next := 10 * n + (d.toNat - '0'.toNat)
    if next < nat64End then
      let (m, k, rest) := takeFitting next ds
      (m, k + 1, rest)
    else (n, 0, d :: ds)

/-- The floating-point power of ten. -/
def powerOfTen (k : Nat) : Binary64 := .ofRatio false (Nat.pow 10 k) 1

/-- `significand * 10 ^ exponent` in floating-point steps; nothing when it is
too large. -/
def scale? (significand : Nat) (exponent : Int) : Option Binary64 :=
  let f := Binary64.ofInt significand
  if significand = 0 then some f
  else if 308 < exponent then none
  else if 0 ≤ exponent then (f.mulFinite (powerOfTen exponent.toNat)) |> fun x =>
    if x.isFinite then some x else none
  else if -308 ≤ exponent then some (f.divFinite (powerOfTen (-exponent).toNat))
  else if -616 ≤ exponent then
    some ((f.divFinite (powerOfTen 308)).divFinite (powerOfTen (-exponent - 308).toNat))
  else some (.zero false)

/-- The parts of a numeral: the digits of the whole part, the digits after the
point if there is one, and the exponent if there is one. -/
structure Parts where
  negative : Bool
  whole : List Char
  fraction : Option (List Char)
  exponent : Option (Bool × List Char)

/-- Exponents from here on count as out of any range. -/
def exponentEnd : Nat := 2147483648

/-- The number that the parts write; nothing when it is out of range. -/
def ofParts? (p : Parts) : Option Number :=
  let (significand, _, excess) := takeFitting 0 p.whole
  match p.fraction, p.exponent, excess with
  | none, none, [] =>
    let i : Int := if p.negative then -significand else significand
    if p.negative && (significand == 0 || !isInt64 i) then
      some (.float (Binary64.ofInt significand).neg)
    else some (.int i)
  | _, _, _ =>
    let (significand, taken, _) := takeFitting significand (p.fraction.getD [])
    let start : Int := excess.length - taken
    let magnitude := match p.exponent with
      | none => scale? significand start
      | some (negativeExponent, ds) =>
        let e := digitsValue ds
        if exponentEnd ≤ e then
          if significand = 0 ∨ negativeExponent then some (.zero false) else none
        else scale? significand (if negativeExponent then start - e else start + e)
    magnitude.map fun x => .float (if p.negative then x.neg else x)

/-- The exponent of a numeral, if the text goes on with one. The inner value is
nothing where there is no exponent; the outer where it has no digits. -/
def readExponent? : List Char → Option (Option (Bool × List Char) × List Char)
  | c :: cs =>
    if c = 'e' ∨ c = 'E' then
      let (negative, r) := splitSign cs
      let ds := r.takeWhile Char.isDigit
      if ds.isEmpty then none else some (some (negative, ds), r.dropWhile Char.isDigit)
    else some (none, c :: cs)
  | [] => some (none, [])

/-- Split a numeral off the front of a text. -/
def readParts? (cs : List Char) : Option (Parts × List Char) :=
  let (negative, r) := match cs with
    | '-' :: r => (true, r)
    | r => (false, r)
  let whole := r.takeWhile Char.isDigit
  let r := r.dropWhile Char.isDigit
  if whole.isEmpty || (whole.head? == some '0' && 1 < whole.length) then none
  else
    match r with
    | '.' :: r =>
      let fraction := r.takeWhile Char.isDigit
      if fraction.isEmpty then none
      else (readExponent? (r.dropWhile Char.isDigit)).map fun (e, r) =>
        (⟨negative, whole, some fraction, e⟩, r)
    | r => (readExponent? r).map fun (e, r) => (⟨negative, whole, none, e⟩, r)

end Json.Number

end FlowEngine
