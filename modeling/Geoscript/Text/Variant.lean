import Geoscript.Text.Lower

/-! The characters that count as one when case does not matter, such as the two forms of the small sigma. -/

namespace Geoscript.Text

/-- Rows of capitals that texts keep when they are put into lower case: the first, the last, the
distance between neighbours, and the small letter of the first. -/
def recentCapitalRows : List (Nat × Nat × Nat × Nat) := [
  (0x1C89, 0x1C89, 1, 0x1C8A), (0xA7CB, 0xA7CB, 1, 0x264), (0xA7CC, 0xA7CC, 1, 0xA7CD),
  (0xA7DA, 0xA7DA, 1, 0xA7DB), (0xA7DC, 0xA7DC, 1, 0x19B), (0x10D50, 0x10D65, 1, 0x10D70)]

/-- Second forms of letters, each with the small letter it is a form of. -/
def secondForms : List (Nat × Nat) := [
  (0xB5, 0x3BC), (0x17F, 0x73), (0x345, 0x3B9), (0x3C2, 0x3C3), (0x3D0, 0x3B2), (0x3D1, 0x3B8),
  (0x3D5, 0x3C6), (0x3D6, 0x3C0), (0x3F0, 0x3BA), (0x3F1, 0x3C1), (0x3F5, 0x3B5), (0x1C80, 0x432),
  (0x1C81, 0x434), (0x1C82, 0x43E), (0x1C83, 0x441), (0x1C84, 0x442), (0x1C85, 0x442),
  (0x1C86, 0x44A), (0x1C87, 0x463), (0x1C88, 0xA64B), (0x1E9B, 0x1E61), (0x1FBE, 0x3B9)]

def variantRows : List (Nat × Nat × Nat × Nat) :=
  capitalRows ++ recentCapitalRows

def folded (n : Nat) : Nat :=
  match secondForms.lookup n with
  | some m => m
  | none =>
    match variantRows.find? fun (lo, hi, gap, _) => lo ≤ n && n ≤ hi && (n - lo) % gap == 0 with
    | some (lo, _, _, form) => form + (n - lo)
    | none => n

def capitals (n : Nat) : List Nat :=
  variantRows.filterMap fun (lo, hi, gap, form) =>
    if form ≤ n && n - form ≤ hi - lo && (n - form) % gap == 0 then some (lo + (n - form)) else none

/-- The code points that count as the given one when case does not matter, itself among them. The
letter i has a dotted capital and a dotless small letter of its own. -/
def variants (n : Nat) : List Nat :=
  if n = 0x49 then [0x49, 0x69, 0x131]
  else if n = 0x69 then [0x69, 0x49, 0x130]
  else if n = 0x130 then [0x130, 0x69]
  else if n = 0x131 then [0x131, 0x49]
  else
    let small := folded n
    small :: capitals small ++ (secondForms.filter (·.2 == small)).map (·.1)

/-- Letters with the small letters that they count as, more than one. -/
def expansions : List (Nat × List Nat) :=
  (Coded.readTable (table 5)).map fun (letter, cells) => (Ranges.number letter, cells.map Ranges.number)

/-- The small letters that stand for a code point when one may count as several. The letters i with and
without a dot stand for themselves. -/
def fullyFolded (n : Nat) : List Nat :=
  if n = 0x49 || n = 0x69 || n = 0x130 || n = 0x131 then [n]
  else
    match expansions.lookup n with
    | some small => small
    | none => [folded n]

/-- The variants of a letter of the basic Latin block within the block. -/
def basicVariants (n : Nat) : List Nat :=
  if 65 ≤ n && n ≤ 90 then [n, n + 32]
  else if 97 ≤ n && n ≤ 122 then [n, n - 32]
  else [n]

end Geoscript.Text
