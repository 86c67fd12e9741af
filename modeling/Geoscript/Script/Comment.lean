import Geoscript.Pattern.Matcher

/-! Line comments are dropped before a script is laid out; block comments become line comments. -/

namespace Geoscript.Script

open Text

/-- A line comment: two slashes that an even number of double quotes follows to the end of some line,
with the rest of their line. -/
def lineComment : Pattern :=
  .all [.str "//",
    .ahead (.all [
      .many (.all [.star (.except "\"'"), .str "\"", .star (.except "\"'"), .str "\""]) .longest 0 none,
      .star (.except "\"'"), .lineEnd]),
    .rest]

def dropLineComments (t : Text) : Text :=
  lineComment.replaceAll [] t

def blockComment : Pattern :=
  .all [.str "/*", .group 1 (.starFew .any), .str "*/"]

/-- Turns block comments into line comments: each of their lines gets a mark. -/
def markBlockComments (t : Text) : Text :=
  match blockComment.occurrences t with
  | [] => t
  | ms =>
    let marked := ms.foldl
      (fun t m => replace (m.group 1) (replace ['\n'] "\n#" (m.group 1)) t) t
    replace "/*" ['#'] marked

/-- Cuts the comment off the lines that do not begin with one. -/
def cutComments (t : Text) : Text :=
  unlines ((lines t).map fun line =>
    if line.head? == some '#' then line
    else if line.contains '#' then trimEnd (line.takeWhile (· != '#'))
    else line)

end Geoscript.Script
