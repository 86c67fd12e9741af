import Geoscript.Script.Bracket
import Geoscript.Pattern.Matcher

/-! Conditions in parentheses and branches in braces become headers that end with a colon. -/

namespace Geoscript.Script

open Text

/-- A branch that is tried when the ones before it are not taken. -/
def elseIfHeader : Pattern :=
  .all [.str "\x7d", .group 1 .restFew, .str "else", .group 2 .restFew, .str "if", .group 3 .restFew,
    .str "\x7b"]

def ifHeader : Pattern :=
  .all [.str "if", .group 1 .restFew, .str "(", .group 2 .rest, .str ")", .group 3 .rest, .str "\x7b"]

def elseHeader : Pattern :=
  .all [.str "\x7d", .group 1 .restFew, .str "else", .group 2 .restFew, .str "\x7b"]

/-- Replaces each match of a pattern by a text made of it, wherever the matched text occurs. -/
def replaceMatches (p : Pattern) (new : Match → Text) (t : Text) : Text :=
  (p.occurrences t).foldl (fun t m => replace m.text (new m) t) t

/-- Writes the headers of branches, and drops the braces that then close nothing. -/
def convertBranches (t : Text) : Text :=
  let t := replaceMatches elseIfHeader (fun m => "elif " ++ m.group 3 ++ ":") t
  let t := replaceMatches ifHeader (fun m => "if " ++ m.group 2 ++ ":") t
  let t := replaceMatches elseHeader (fun _ => "else:") t
  dropUnmatched t

end Geoscript.Script
