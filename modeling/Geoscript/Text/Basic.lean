/-! A text is a list of characters. -/

namespace Geoscript

abbrev Text := List Char

/-- A string stands for the text of its characters. -/
instance : Coe String Text := ⟨String.toList⟩

namespace Text

def fields (sep : Char) : Text → List Text
  | [] => [[]]
  | c :: t =>
    if c = sep then [] :: fields sep t
    else
      match fields sep t with
      | [] => [[c]]
      | piece :: rest => (c :: piece) :: rest

/-- The lines of a text: a line ends at a line feed and at nothing else. -/
def lines (t : Text) : List Text :=
  fields '\n' t

def join (sep : Text) : List Text → Text
  | [] => []
  | [piece] => piece
  | piece :: rest => piece ++ sep ++ join sep rest

def unlines (ls : List Text) : Text :=
  join ['\n'] ls

def ofLines (ls : List String) : Text :=
  unlines (ls.map String.toList)

/-- Cutting and replacing read a text from the left and skip the `n` characters that belong to the
occurrence just met. -/
def splitGo (sep : Text) : Nat → Text → List Text
  | _, [] => [[]]
  | n + 1, _ :: t => splitGo sep n t
  | 0, c :: t =>
    if sep.isPrefixOf (c :: t) then [] :: splitGo sep (sep.length - 1) t
    else
      match splitGo sep 0 t with
      | [] => [[c]]
      | piece :: rest => (c :: piece) :: rest

/-- The pieces of a text between the occurrences of a non-empty separator, found from the left
without overlap. -/
def splitOn (sep t : Text) : List Text :=
  splitGo sep 0 t

def replaceGo (old new : Text) : Nat → Text → Text
  | _, [] => []
  | n + 1, _ :: t => replaceGo old new n t
  | 0, c :: t =>
    if old.isPrefixOf (c :: t) then new ++ replaceGo old new (old.length - 1) t
    else c :: replaceGo old new 0 t

/-- The text with every occurrence of `old`, found from the left without overlap, turned into `new`.
The empty piece occurs before every character and at the end. -/
def replace (old new t : Text) : Text :=
  match old with
  | [] => t.foldr (fun c rest => new ++ c :: rest) new
  | _ :: _ => replaceGo old new 0 t

/-- Replaces a list of pieces one after the other, from left to right. -/
def replaceEach (pairs : List (Text × Text)) (t : Text) : Text :=
  pairs.foldl (fun t (old, new) => replace old new t) t

def has (piece : Text) : Text → Bool
  | [] => piece.isEmpty
  | c :: t => piece.isPrefixOf (c :: t) || has piece t

/-- The text from the first occurrence of `piece` on, with what stands before it. -/
def cutAt? (piece : Text) : Text → Option (Text × Text)
  | [] => if piece.isEmpty then some ([], []) else none
  | c :: t =>
    if piece.isPrefixOf (c :: t) then some ([], c :: t)
    else (cutAt? piece t).map fun (before, rest) => (c :: before, rest)

def count (c : Char) (t : Text) : Nat :=
  List.count c t

def without (drop : Char → Bool) (t : Text) : Text :=
  t.filter fun c => !drop c

/-- The different texts of a list, each once. The empty text, if there, comes first, and the others
keep their order. -/
def distinct (ts : List Text) : List Text :=
  let ts := ts.eraseDups
  ts.filter List.isEmpty ++ ts.filter (fun t => !t.isEmpty)

-- The equations by which proofs unfold these functions are made here, once for all of them.
attribute [local simp] fields join splitGo replaceGo replace has cutAt?

end Text

end Geoscript
