import Geoscript.Value.Basic

/-! Values written as JSON. A number with a point or an exponent is a double, any other an integer. Of two entries
with one key the later gives the value and the earlier the place. -/

namespace Geoscript.Value.Json

def skipBlank (t : Text) : Text :=
  t.dropWhile fun c => c == ' ' || c == '\t' || c == '\n' || c == '\r'

def hexDigit? (c : Char) : Option Nat :=
  let n := c.toNat
  if 48 ≤ n ∧ n ≤ 57 then some (n - 48)
  else if 97 ≤ n ∧ n ≤ 102 then some (n - 87)
  else if 65 ≤ n ∧ n ≤ 70 then some (n - 55)
  else none

def hexUnit? (a b c d : Char) : Option Nat := do
  return (((← hexDigit? a) * 16 + (← hexDigit? b)) * 16 + (← hexDigit? c)) * 16 + (← hexDigit? d)

def isHigh (n : Nat) : Bool := 0xd800 ≤ n && n < 0xdc00

def isLow (n : Nat) : Bool := 0xdc00 ≤ n && n < 0xe000

def unitChar (n : Nat) : Char :=
  if isHigh n || isLow n then Char.ofNat 0xfffd else Char.ofNat n

def escaped? (c : Char) : Option Char :=
  match c with
  | '"' => some '"'
  | '\\' => some '\\'
  | '/' => some '/'
  | 'b' => some (Char.ofNat 8)
  | 'f' => some (Char.ofNat 12)
  | 'n' => some '\n'
  | 'r' => some '\r'
  | 't' => some '\t'
  | _ => none

def readText : Text → Option (Text × Text)
  | [] => none
  | '"' :: t => some ([], t)
  | '\\' :: 'u' :: a :: b :: c :: d :: '\\' :: 'u' :: e :: f :: g :: h :: t => do
    let first ← hexUnit? a b c d
    match hexUnit? e f g h with
    | some second =>
      if isHigh first && isLow second then
        let (s, rest) ← readText t
        return (Char.ofNat (0x10000 + (first - 0xd800) * 0x400 + (second - 0xdc00)) :: s, rest)
      else
        let (s, rest) ← readText ('\\' :: 'u' :: e :: f :: g :: h :: t)
        return (unitChar first :: s, rest)
    | none => none
  | '\\' :: 'u' :: a :: b :: c :: d :: t => do
    let unit ← hexUnit? a b c d
    let (s, rest) ← readText t
    return (unitChar unit :: s, rest)
  | '\\' :: c :: t => do
    let c ← escaped? c
    let (s, rest) ← readText t
    return (c :: s, rest)
  | c :: t =>
    if c.toNat < 32 || c == '\\' then none
    else do
      let (s, rest) ← readText t
      return (c :: s, rest)

def digits (t : Text) : Text × Text :=
  (t.takeWhile Char.isDigit, t.dropWhile Char.isDigit)

def readFraction (t : Text) : Text × Text :=
  match t with
  | '.' :: rest => if (digits rest).1.isEmpty then ([], t) else digits rest
  | t => ([], t)

def readExponent (t : Text) : Option Int × Text :=
  match t with
  | c :: rest =>
    if c == 'e' || c == 'E' then
      let (negative, rest) := Numeral.readSign rest
      let (ds, rest) := digits rest
      if ds.isEmpty then (none, t)
      else
        let n : Int := Numeral.digitsValue ds
        (some (if negative then -n else n), rest)
    else (none, t)
  | [] => (none, t)

/-- Reads a number without its sign. A first digit zero is the whole part. -/
def readUnsigned (negative : Bool) (t : Text) : Option (Value × Text) :=
  let (whole, rest) :=
    match t with
    | '0' :: rest => (['0'], rest)
    | t => digits t
  if whole.isEmpty then none
  else
    let (fraction, rest) := readFraction rest
    let (exponent, rest) := readExponent rest
    let mantissa := Numeral.digitsValue (whole ++ fraction)
    if fraction.isEmpty && exponent.isNone then
      let n : Int := mantissa
      some (.int (if negative then -n else n), rest)
    else
      some (.float (Double.ofDecimal negative mantissa (exponent.getD 0 - fraction.length)), rest)

def afterWord? (word : String) (t : Text) : Option Text :=
  if word.toList.isPrefixOf t then some (t.drop word.length) else none

def readPlain (t : Text) : Option (Value × Text) :=
  let words : List (String × Value) :=
    [("null", .null), ("true", .bool true), ("false", .bool false), ("NaN", .float .notANumber),
      ("Infinity", .float (.ofMagnitude false Double.infinityBits)),
      ("-Infinity", .float (.ofMagnitude true Double.infinityBits))]
  match words.findSome? fun (word, v) => (afterWord? word t).map fun rest => (v, rest) with
  | some found => some found
  | none =>
    match t with
    | '-' :: rest => readUnsigned true rest
    | t => readUnsigned false t

mutual

def readValue : Nat → Text → Option (Value × Text)
  | 0, _ => none
  | fuel + 1, t =>
    match t with
    | '"' :: rest => (readText rest).map fun (s, rest) => (.str (String.ofList s), rest)
    | '[' :: rest =>
      match skipBlank rest with
      | ']' :: rest => some (.list [], rest)
      | rest => (readItems fuel rest).map fun (vs, rest) => (.list vs, rest)
    | '\x7b' :: rest =>
      match skipBlank rest with
      | '\x7d' :: rest => some (.dict [], rest)
      | rest => (readEntries fuel [] rest).map fun (es, rest) => (.dict es, rest)
    | t => readPlain t

def readItems : Nat → Text → Option (List Value × Text)
  | 0, _ => none
  | fuel + 1, t => do
    let (v, rest) ← readValue fuel t
    match skipBlank rest with
    | ']' :: rest => return ([v], rest)
    | ',' :: rest =>
      let (vs, rest) ← readItems fuel (skipBlank rest)
      return (v :: vs, rest)
    | _ => none

def readEntries : Nat → Entries → Text → Option (Entries × Text)
  | 0, _, _ => none
  | fuel + 1, es, t =>
    match t with
    | '"' :: rest => do
      let (k, rest) ← readText rest
      match skipBlank rest with
      | ':' :: rest =>
        let (v, rest) ← readValue fuel (skipBlank rest)
        let es := Value.put es (String.ofList k) v
        match skipBlank rest with
        | '\x7d' :: rest => return (es, rest)
        | ',' :: rest => readEntries fuel es (skipBlank rest)
        | _ => none
      | _ => none
    | _ => none

end

/-- Reads a document: one value, and nothing but white space around it. -/
def read? (t : Text) : Option Value :=
  match readValue (t.length + 1) (skipBlank t) with
  | some (v, rest) => if (skipBlank rest).isEmpty then some v else none
  | none => none

end Geoscript.Value.Json
