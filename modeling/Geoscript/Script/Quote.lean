import Geoscript.Pattern.Matcher

/-! Quoted text, which most passes leave alone. -/

namespace Geoscript.Script

open Text

/-- A text in quotes of one kind on one line. A backslash takes the next character with it. -/
def quoted : Pattern :=
  .all [.group 1 (.one (.of "\"'")),
    .many
      (.all [.ahead (.group 2 (.run (.single '\\') .longest 0 (some 1))), .sameAs 2, .one .inLine])
      .shortest 0 none,
    .sameAs 1]

/-- Whether the first quoted piece of a text contains a word. -/
def inQuotes (t word : Text) : Bool :=
  match quoted.search? t with
  | some m => has word m.text
  | none => false

/-- Replaces a word in a script unless the line it was found on has it in quotes. -/
def replaceOutsideQuotes (script line word new : Text) : Text :=
  if inQuotes line word then script else replace word new script

/-- The marks that open and close quoted text, in the order in which they are looked for. -/
def quoteMarks : List Text :=
  ["'", "\\'", "\"", "\\\""]

/-- Where a quoted piece opens: the nearest of the marks. A mark at the very start opens nothing and
hides the later ones of its kind. -/
def opening? (t : Text) : Option (Text × Text × Text) :=
  let candidates := quoteMarks.filterMap fun mark =>
    match cutAt? mark t with
    | some (before, rest) => if before.isEmpty then none else some (before, mark, rest)
    | none => none
  candidates.foldl
    (fun best c =>
      match best with
      | none => some c
      | some b => if c.1.length < b.1.length then some c else some b)
    none

/-- The replacements made one after the other on a text that is not empty. -/
def replaceMany (pairs : List (Text × Text)) (t : Text) : Text :=
  if t.isEmpty then [] else replaceEach pairs t

/-- `replaceUnquoted` with a bound on the number of quoted pieces. -/
def replaceUnquotedFrom (pairs : List (Text × Text)) : Nat → Text → Text
  | 0, t => replaceMany pairs t
  | fuel + 1, t =>
    match opening? t with
    | none => replaceMany pairs t
    | some (before, mark, rest) =>
      match cutAt? mark (rest.drop mark.length) with
      | none => replaceMany pairs before ++ replaceMany pairs rest
      | some (inner, after) =>
        replaceMany pairs before ++ (mark ++ inner ++ mark) ++
          replaceUnquotedFrom pairs fuel (after.drop mark.length)

/-- Makes the replacements outside of quotes. A quote that is not closed quotes nothing. -/
def replaceUnquoted (pairs : List (Text × Text)) (t : Text) : Text :=
  replaceUnquotedFrom pairs (t.length + 1) t

end Geoscript.Script
