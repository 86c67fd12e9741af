import Geoscript.Text.Blank
import Geoscript.Text.Digit

/-! Decimal numerals: a sign, digits of any script with a point and an exponent, or a word for infinity or for what is
not a number. A single underscore may stand between two digits. -/

namespace Geoscript

/-- What a numeral denotes: `mantissa * 10 ^ exponent` with a sign, or a value that is no number. -/
inductive Numeral where
  | finite (negative : Bool) (mantissa : Nat) (exponent : Int)
  | infinity (negative : Bool)
  | notANumber
  deriving Repr, DecidableEq

namespace Numeral

/-- The digit character of the plain numerals for a decimal digit of any script. -/
def plainDigit (c : Char) : Char :=
  match Text.digit? c with
  | some d => Char.ofNat (48 + d)
  | none => c

/-- The text without its underscores, if each of them stands between two digits. -/
def dropUnderscores : Option Char → Text → Option Text
  | prev, [] => if prev == some '_' then none else some []
  | prev, '_' :: rest =>
    if prev.any Char.isDigit then dropUnderscores (some '_') rest else none
  | prev, c :: rest =>
    if prev == some '_' && !c.isDigit then none
    else (dropUnderscores (some c) rest).map (c :: ·)

def digitsValue (t : Text) : Nat :=
  t.foldl (fun n c => 10 * n + (c.toNat - 48)) 0

def readSign : Text → Bool × Text
  | '-' :: rest => (true, rest)
  | '+' :: rest => (false, rest)
  | t => (false, t)

/-- Reads an exponent that fills the whole text; no text is exponent zero. -/
def readExponent : Text → Option Int
  | [] => some 0
  | c :: rest =>
    if c == 'e' || c == 'E' then
      let (negative, digits) := readSign rest
      if digits.isEmpty || !digits.all Char.isDigit then none
      else
        let n : Int := digitsValue digits
        some (if negative then -n else n)
    else none

def readDigits (negative : Bool) (t : Text) : Option Numeral :=
  let whole := t.takeWhile Char.isDigit
  let (fraction, rest) : Text × Text :=
    match t.dropWhile Char.isDigit with
    | '.' :: rest => (rest.takeWhile Char.isDigit, rest.dropWhile Char.isDigit)
    | rest => ([], rest)
  if whole.isEmpty && fraction.isEmpty then none
  else
    (readExponent rest).map fun e =>
      .finite negative (digitsValue (whole ++ fraction)) (e - fraction.length)

def readPlain (t : Text) : Option Numeral :=
  let (negative, rest) := readSign t
  let word := rest.map Char.toLower
  if word = "inf" ∨ word = "infinity" then some (.infinity negative)
  else if word = "nan" then some .notANumber
  else readDigits negative rest

def read? (t : Text) : Option Numeral :=
  let trimmed := ((t.dropWhile Text.isSpace).reverse.dropWhile Text.isSpace).reverse
  (dropUnderscores none (trimmed.map plainDigit)).bind readPlain

end Numeral

def Text.isNumeral (t : Text) : Bool :=
  (Numeral.read? t).isSome

end Geoscript
