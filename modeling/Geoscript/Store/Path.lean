import Geoscript.Text.Basic

/-! A module is named by an address, or by a repository path whose parts are divided by slashes and colons. The name
gives where it is downloaded from and the file it is kept in. -/

namespace Geoscript.Store

open Text

/-- The slashes in front of a path and its parts. A path without slashes in front starts in the folder
of the store. -/
structure Path where
  root : Text
  parts : List Text
  deriving Repr, DecidableEq

namespace Path

/-- The slashes in front of a path. Two of them are kept apart from one, and more mean one. -/
def rootOf (t : Text) : Text :=
  match (t.takeWhile (· == '/')).length with
  | 0 => []
  | 2 => "//"
  | _ => ['/']

def ofText (t : Text) : Path :=
  ⟨rootOf t, (fields '/' t).filter fun p => !p.isEmpty && p != ['.']⟩

def absolute (p : Path) : Bool :=
  !p.root.isEmpty

def render (folder : Text) (p : Path) : Text :=
  let parts := join ['/'] p.parts
  if p.absolute then p.root ++ parts
  else if p.parts.isEmpty then folder
  else folder ++ '/' :: parts

def parent (p : Path) : Path :=
  { p with parts := p.parts.dropLast }

def name (p : Path) : Text :=
  p.parts.getLast?.getD []

/-- The name without the part after its last dot. A dot at either end is not counted. -/
def stem (p : Path) : Text :=
  let name := p.name
  match (name.reverse.dropWhile (· != '.')) with
  | [] => name
  | _ :: before =>
    if before.isEmpty || before.length + 1 == name.length then name else before.reverse

end Path

abbrev ModuleName := Text

namespace ModuleName

def isAddress (x : ModuleName) : Bool :=
  "http".toList.isPrefixOf x

def slashed (x : ModuleName) : Text :=
  x.map fun c => if c == ':' then '/' else c

def url (x : ModuleName) : Text :=
  if isAddress x then x
  else "https://storage.googleapis.com/ee-sources/" ++ slashed x

def path (x : ModuleName) : Path :=
  if isAddress x then
    let p := Path.ofText x
    Path.ofText ("EXTERNAL_" ++ p.stem ++ '/' :: p.name)
  else if ".js".toList.isSuffixOf x then Path.ofText (slashed x)
  else Path.ofText (slashed x ++ ".js")

def convertedPath (x : ModuleName) : Path :=
  let p := (path x).parent
  { p with parts := p.parts ++ ["module.py".toList] }

def folder (x : ModuleName) : Path :=
  if isAddress x then Path.ofText ("EXTERNAL/" ++ (Path.ofText x).stem)
  else Path.ofText (join ['/'] (fields '/' (slashed x)).dropLast)

end ModuleName

end Geoscript.Store
