import Geoscript.Number.Double

/-! The text of a double: the fewest digits that read back as the same double, and of those the ones nearest to its
value. -/

namespace Geoscript.Double

/-- The digits of a decimal and its exponent: `digits * 10 ^ exponent`. -/
structure Decimal where
  digits : Nat
  exponent : Int
  deriving Repr, DecidableEq

structure Ratio where
  num : Nat
  den : Nat

def Ratio.ofScaled (m : Nat) (e : Int) : Ratio :=
  if 0 ≤ e then ⟨m * twoPow e.toNat, 1⟩ else ⟨m, twoPow (-e).toNat⟩

/-- How many times `10 ^ exponent` goes into a rational, with the remainder and the divisor. -/
def Ratio.onGrid (r : Ratio) (exponent : Int) : Nat × Nat × Nat :=
  let (num, den) :=
    if 0 ≤ exponent then (r.num, r.den * tenPow exponent.toNat)
    else (r.num * tenPow (-exponent).toNat, r.den)
  (num / den, num % den, den)

/-- The decimal of a grid that reads back as the given magnitude and is nearest to it. -/
def onGrid? (magnitude : Nat) (r : Ratio) (exponent : Int) : Option Decimal :=
  let (below, rest, den) := r.onGrid exponent
  let readsBack (n : Nat) : Bool :=
    n != 0 && (ofDecimal false n exponent).bits.toNat == magnitude
  let near : Nat := if den < 2 * rest ∨ (2 * rest = den ∧ below % 2 = 1) then below + 1 else below
  let far : Nat := if near = below then below + 1 else below
  if readsBack near then some ⟨near, exponent⟩
  else if readsBack far then some ⟨far, exponent⟩
  else none

/-- The exponent of the first digit of a positive rational, or one more. -/
def leadingExponent (r : Ratio) : Int :=
  ((Nat.toDigits 10 r.num).length : Int) - (Nat.toDigits 10 r.den).length

def firstOnGrids (magnitude : Nat) (r : Ratio) : Nat → Int → Decimal
  | 0, exponent => ⟨(r.onGrid exponent).1, exponent⟩
  | fuel + 1, exponent =>
    match onGrid? magnitude r exponent with
    | some d => d
    | none => firstOnGrids magnitude r fuel (exponent - 1)

def Decimal.trimmed : Nat → Decimal → Decimal
  | 0, d => d
  | fuel + 1, d =>
    if d.digits != 0 && d.digits % 10 == 0 then Decimal.trimmed fuel ⟨d.digits / 10, d.exponent + 1⟩
    else d

/-- The fewest digits that denote a positive magnitude. Seventeen digits always do. -/
def shortest (mantissa : Nat) (exponent : Int) (magnitude : Nat) : Decimal :=
  let r := Ratio.ofScaled mantissa exponent
  (firstOnGrids magnitude r 20 (leadingExponent r + 1)).trimmed 400

/-- The text of digits with a point after the first `k`; zeros fill what is missing. -/
def pointed (digits : Text) (k : Int) : Text :=
  if k ≤ 0 then "0." ++ List.replicate (-k).toNat '0' ++ digits
  else if digits.length ≤ k.toNat then
    digits ++ List.replicate (k.toNat - digits.length) '0' ++ ".0"
  else digits.take k.toNat ++ '.' :: digits.drop k.toNat

def exponentText (e : Int) : Text :=
  let digits := Nat.toDigits 10 e.natAbs
  (if e < 0 then '-' else '+') :: (if digits.length < 2 then '0' :: digits else digits)

def Decimal.render (d : Decimal) : Text :=
  let digits := Nat.toDigits 10 d.digits
  let k : Int := d.exponent + digits.length
  if -4 < k ∧ k ≤ 16 then pointed digits k
  else
    let tail := digits.drop 1
    digits.take 1 ++ (if tail.isEmpty then [] else '.' :: tail) ++ 'e' :: exponentText (k - 1)

def render (d : Double) : Text :=
  match d.parts with
  | .notANumber => "nan"
  | .infinity negative => if negative then "-inf" else "inf"
  | .finite negative mantissa exponent =>
    let magnitude := d.bits.toNat % signBit
    let text := if mantissa = 0 then "0.0".toList else (shortest mantissa exponent magnitude).render
    if negative then '-' :: text else text

end Geoscript.Double
