import Geoscript.Number.Shortest
import Geoscript.Value.Basic

/-! How values are written in messages. A text on its own is written as it is; inside of lists and dictionaries it
stands in quotes. -/

namespace Geoscript.Value

/-- Ranges of the characters beyond the basic ones that are not written as themselves: controls, marks
without shape, private and unassigned places. -/
def hiddenRanges : List (Nat × Nat) := [
  (0x80, 0xa0), (0xad, 0xad), (0x600, 0x605), (0x61c, 0x61c), (0x6dd, 0x6dd), (0x70f, 0x70f),
  (0x180e, 0x180e), (0x200b, 0x200f), (0x2028, 0x202e), (0x2060, 0x206f), (0xd800, 0xf8ff),
  (0xfeff, 0xfeff), (0xfff0, 0xfffb), (0xfffe, 0xffff), (0xe0000, 0x10ffff)]

def isShown (c : Char) : Bool :=
  let n := c.toNat
  if n < 0x80 then 0x20 ≤ n && n != 0x7f
  else !Text.isSpace c && !hiddenRanges.any fun (lo, hi) => lo ≤ n && n ≤ hi

def hex (width n : Nat) : Text :=
  let digits := Nat.toDigits 16 n
  List.replicate (width - digits.length) '0' ++ digits

def quotedChar (quote c : Char) : Text :=
  if c = '\\' ∨ c = quote then ['\\', c]
  else if c = '\n' then "\\n"
  else if c = '\r' then "\\r"
  else if c = '\t' then "\\t"
  else if isShown c then [c]
  else if c.toNat < 0x100 then "\\x" ++ hex 2 c.toNat
  else if c.toNat < 0x10000 then "\\u" ++ hex 4 c.toNat
  else "\\U" ++ hex 8 c.toNat

def quotedText (t : Text) : Text :=
  let quote := if t.contains '\'' && !t.contains '"' then '"' else '\''
  quote :: t.flatMap (quotedChar quote) ++ [quote]

mutual

def quoted : Value → Text
  | null => "None"
  | bool b => if b then "True" else "False"
  | int i => (toString i).toList
  | float d => d.render
  | str s => quotedText s.toList
  | list items => '[' :: Text.join ", " (quotedList items) ++ [']']
  | dict entries => '\x7b' :: Text.join ", " (quotedEntries entries) ++ ['\x7d']
  | node _ => []

def quotedList : List Value → List Text
  | [] => []
  | v :: vs => quoted v :: quotedList vs

def quotedEntries : Entries → List Text
  | [] => []
  | (k, v) :: rest => (quotedText k.toList ++ ": " ++ quoted v) :: quotedEntries rest

end

def render (v : Value) : String :=
  match v with
  | str s => s
  | v => String.ofList v.quoted

def renderTexts (ts : List String) : String :=
  (Value.list (ts.map Value.str)).render

end Geoscript.Value
