import Geoscript.Text.Ranges
import Geoscript.Text.Tables

/-! The writing system of each character, and the other systems that use it as well. -/

namespace Geoscript.Text

/-- A writing system: its names, its own characters, and the characters it shares. -/
structure Writing where
  names : List String
  own : Ranges
  shared : Ranges

def writings : List Writing :=
  (Coded.readTable (table 1)).map fun (names, cells) =>
    ⟨names.splitOn " ", Ranges.read (cells.headD ""), Ranges.read (cells.getD 1 "")⟩

end Geoscript.Text
