import Geoscript.Number.Decimal

/-! Numbers of double precision, kept as their bits. Conversions are exact: a quotient of naturals goes to the nearest
double, and a half to the even one. -/

namespace Geoscript

def twoPow (k : Nat) : Nat :=
  Nat.pow 2 k

def tenPow (k : Nat) : Nat :=
  Nat.pow 10 k

/-- A number of double precision, by its bits. -/
structure Double where
  bits : UInt64
  deriving Repr, DecidableEq

/-- What the bits of a double denote: `mantissa * 2 ^ exponent` with a sign, or no finite number. -/
inductive Double.Parts where
  | finite (negative : Bool) (mantissa : Nat) (exponent : Int)
  | infinity (negative : Bool)
  | notANumber
  deriving Repr, DecidableEq

namespace Double

def signBit : Nat := twoPow 63

def infinityBits : Nat := 2047 * twoPow 52

def ofMagnitude (negative : Bool) (magnitude : Nat) : Double :=
  ⟨UInt64.ofNat (if negative then signBit + magnitude else magnitude)⟩

def parts (d : Double) : Parts :=
  let n := d.bits.toNat
  let negative := decide (signBit ≤ n)
  let magnitude := n % signBit
  let fraction := magnitude % twoPow 52
  let exponent : Nat := magnitude / twoPow 52
  if exponent = 2047 then
    if fraction = 0 then .infinity negative else .notANumber
  else if exponent = 0 then .finite negative fraction (-1074)
  else .finite negative (fraction + twoPow 52) ((exponent : Int) - 1075)

/-- A quotient in whole numbers, to the nearest one and from a half to the even one. -/
def roundDiv (num den : Nat) : Nat :=
  let q := num / den
  let r := num % den
  if den < 2 * r ∨ (2 * r = den ∧ q % 2 = 1) then q + 1 else q

def scaledDiv (num den : Nat) (exponent : Int) : Nat :=
  if 0 ≤ exponent then roundDiv num (den * twoPow exponent.toNat)
  else roundDiv (num * twoPow (-exponent).toNat) den

def belowPower (num den : Nat) (k : Int) : Bool :=
  if 0 ≤ k then decide (num < den * twoPow k.toNat)
  else decide (num * twoPow (-k).toNat < den)

/-- The bits of the magnitude that is nearest to `num / den`. The unit of the last place is chosen so
that the rounded mantissa has 53 bits, unless the quotient is too small for that. -/
def magnitudeBits (num den : Nat) : Nat :=
  if num = 0 then 0
  else
    let k : Int := (Nat.log2 num : Int) - (Nat.log2 den : Int)
    let top : Int := if belowPower num den k then k - 1 else k
    let unit : Int := max (top - 52) (-1074)
    let bits := (unit + 1074).toNat * twoPow 52 + scaledDiv num den unit
    min bits infinityBits

def ofRatio (negative : Bool) (num den : Nat) : Double :=
  ofMagnitude negative (magnitudeBits num den)

/-- Decimal exponents beyond this bound lead to zero or to infinity for every mantissa of a readable
length. -/
def exponentBound : Int := 100000

def ofDecimal (negative : Bool) (mantissa : Nat) (exponent : Int) : Double :=
  if mantissa = 0 then ofMagnitude negative 0
  else if exponentBound < exponent then ofMagnitude negative infinityBits
  else if exponent < -exponentBound then ofMagnitude negative 0
  else if 0 ≤ exponent then ofRatio negative (mantissa * tenPow exponent.toNat) 1
  else ofRatio negative mantissa (tenPow (-exponent).toNat)

instance : OfScientific Double where
  ofScientific mantissa negativeExponent exponent :=
    ofDecimal false mantissa (if negativeExponent then -(exponent : Int) else exponent)

def notANumber : Double := ⟨UInt64.ofNat (infinityBits + twoPow 51)⟩

def ofNumeral : Numeral → Double
  | .finite negative mantissa exponent => ofDecimal negative mantissa exponent
  | .infinity negative => ofMagnitude negative infinityBits
  | .notANumber => notANumber

def isInfinite (d : Double) : Bool :=
  match d.parts with
  | .infinity _ => true
  | _ => false

def ofInt? (i : Int) : Option Double :=
  let d := ofRatio (i < 0) i.natAbs 1
  if d.isInfinite then none else some d

def toFloat (d : Double) : Float :=
  Float.ofBits d.bits

def ofFloat (f : Float) : Double :=
  ⟨f.toBits⟩

def mul (a b : Double) : Double :=
  ofFloat (a.toFloat * b.toFloat)

def div (a b : Double) : Double :=
  ofFloat (a.toFloat / b.toFloat)

def sub (a b : Double) : Double :=
  ofFloat (a.toFloat - b.toFloat)

def neg (d : Double) : Double :=
  ⟨d.bits ^^^ UInt64.ofNat signBit⟩

instance : Neg Double := ⟨neg⟩

def isZero (d : Double) : Bool :=
  d.bits.toNat % signBit = 0

end Double

inductive Number where
  | int (i : Int)
  | double (d : Double)
  deriving Repr, DecidableEq

namespace Number

def compareScaled (m e n f : Int) : Ordering :=
  let unit := min e f
  compare (m * twoPow (e - unit).toNat) (n * twoPow (f - unit).toNat)

def parts : Number → Double.Parts
  | .int i => .finite (i < 0) i.natAbs 0
  | .double d => d.parts

def signed (negative : Bool) (mantissa : Nat) : Int :=
  if negative then -(mantissa : Int) else mantissa

/-- The order of two numbers by their exact values. What is not a number has no place in it. -/
def compare? (a b : Number) : Option Ordering :=
  match a.parts, b.parts with
  | .notANumber, _ => none
  | _, .notANumber => none
  | .infinity s, .infinity t => some (if s = t then .eq else if s then .lt else .gt)
  | .infinity s, .finite .. => some (if s then .lt else .gt)
  | .finite .., .infinity t => some (if t then .gt else .lt)
  | .finite s m e, .finite t n f => some (compareScaled (signed s m) e (signed t n) f)

def lt (a b : Number) : Bool :=
  a.compare? b == some .lt

def le (a b : Number) : Bool :=
  a.compare? b == some .lt || a.compare? b == some .eq

def same (a b : Number) : Bool :=
  a.compare? b == some .eq

def toDouble? : Number → Option Double
  | .int i => Double.ofInt? i
  | .double d => some d

def mul? : Number → Number → Option Number
  | .int a, .int b => some (.int (a * b))
  | a, b => do return .double ((← a.toDouble?).mul (← b.toDouble?))

def sub? : Number → Number → Option Number
  | .int a, .int b => some (.int (a - b))
  | a, b => do return .double ((← a.toDouble?).sub (← b.toDouble?))

def divNat? (a : Number) (n : Nat) : Option Number :=
  match a with
  | .int i =>
    let d := Double.ofRatio (i < 0) i.natAbs n
    if d.isInfinite then none else some (.double d)
  | .double d => some (.double (d.div (Double.ofRatio false n 1)))

def neg : Number → Number
  | .int i => .int (-i)
  | .double d => .double d.neg

end Number

end Geoscript
