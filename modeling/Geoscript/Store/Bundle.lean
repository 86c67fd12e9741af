import Geoscript.Store.Install

/-! One text for a module and all it requires. Every line that requires a module is replaced by its text until none
does; that need not come to pass, so it is done in a number of rounds. -/

namespace Geoscript.Store

open Text

def comment : Pattern :=
  .all [.str "/*", .starFew .any, .str "*/"]

def declared : Pattern :=
  .all [.str "var", .group 1 .restFew, .str "="]

def requires (line : Text) : Bool :=
  has "require(" line

def Tree.plainText (t : Tree) (x : ModuleName) : Except Problem Text :=
  (t.moduleText x).map (comment.replaceAll [])

def exportsName (n : Nat) : Text :=
  "eeExtraExports" ++ Nat.toDigits 10 n

def expandLine (t : Tree) (n : Nat) (line : Text) : Except Problem (List Text) := do
  let some target := declared.search? line | .error .badRequire
  let some required := requireCall.search? line | .error .badRequire
  let text ← t.plainText (unquoted (required.group 1))
  let name := exportsName n
  return ("var " ++ name ++ " = AttrDict();") ::
    lines (replace "exports" name text) ++
    ["var " ++ without (· == ' ') (target.group 1) ++ " = " ++ name]

/-- Expands the lines once, counting the modules from `n` on. -/
def expandOnce (t : Tree) : Nat → List Text → Except Problem (Nat × List Text)
  | n, [] => .ok (n, [])
  | n, line :: rest => do
    if requires line then
      let new ← expandLine t n line
      let (n, others) ← expandOnce t (n + 1) rest
      return (n, new ++ others)
    else
      let (n, others) ← expandOnce t n rest
      return (n, line :: others)

/-- Expands the lines until none requires a module, and returns how many modules there are with the lines.
`none` stands for lines that still require modules after the rounds. -/
def expand (t : Tree) (rounds n : Nat) (ls : List Text) : Option (Except Problem (Nat × List Text)) :=
  if ls.any requires then
    match rounds with
    | 0 => none
    | rounds + 1 =>
      match expandOnce t n ls with
      | .ok (n, ls) => expand t rounds n ls
      | .error e => some (.error e)
  else some (.ok (n, ls))

def separators : CharSet :=
  ⟨[.space, .range (Char.ofNat 28) (Char.ofNat 31)], false⟩

/-- A value in double quotes after a colon, which may go on over lines that begin no other entry. Group
1 is what stands before the value and group 2 the value. -/
def quotedValue : Pattern :=
  .all [.group 1 (.all [.str ":", .plus separators, .str "\""]),
    .group 2 (.all [.rest,
      .many
        (.all [.str "\n",
          .notAhead (.all [.star separators, .str "\"", .plus (.except "\"\n:"), .str "\":"]),
          .rest])
        .longest 0 none]),
    .str "\",", .lineEnd]

/-- Writes double quotes inside of quoted values as single ones. -/
def mendQuotes (t : Text) : Text :=
  quotedValue.replaceBy
    (fun m => m.group 1 ++ replace ['"'] ['\''] (m.group 2) ++ "\",") t

/-- The text of a module with everything it requires, or `none` if the rounds do not suffice for it. -/
def Tree.bundle (t : Tree) (rounds : Nat) (x : ModuleName) : Option (Except Problem Text) :=
  match t.plainText x with
  | .ok text => (expand t rounds 0 (lines text)).map fun r => r.map fun (_, ls) => mendQuotes (unlines ls)
  | .error e => some (.error e)

end Geoscript.Store
