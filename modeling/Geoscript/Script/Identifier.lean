import Geoscript.Pattern.Matcher

/-! The characters of names and simple indexed accesses, and the words that the generated script reserves. -/

namespace Geoscript.Script

/-- Latin and Greek letters, digits, square brackets and the underscore. -/
def nameSet : CharSet where
  entries := [.range 'A' 'Z', .range 'a' 'z', .range '0' '9', .range 'Α' 'Ω', .range 'α' 'ω'] ++
    "ίϊΐόάέύϋΰήώ[]_".toList.map .char

/-- The words that cannot be assigned to in the generated script. -/
def reservedWords : List String := [
  "False", "None", "True", "and", "as", "assert", "async", "await", "break", "class", "continue",
  "def", "del", "elif", "else", "except", "finally", "for", "from", "global", "if", "import", "in",
  "is", "lambda", "nonlocal", "not", "or", "pass", "raise", "return", "try", "while", "with", "yield"]

end Geoscript.Script
