import Geoscript.Script.Fault
import Geoscript.Store.Path

/-! The files and folders of installed modules. A `Location` is where a path leads, from the folder of the store on,
with `..` for each step out of it. -/

namespace Geoscript.Store

open Text

abbrev Location := List Text

def up : Text := ".."

def top : Location := [['/']]

/-- The files with their texts, and the folders. The folder of the store is `[]`. -/
structure Tree where
  files : List (Location × Text)
  folders : List Location
  deriving Repr, DecidableEq

inductive Problem where
  | notInstalled (name : ModuleName)
  | noSuchFile
  | notAFolder
  | isAFolder
  | unreachable
  /-- A line that requires a module does not assign it, or does not name it. -/
  | badRequire
  deriving Repr, DecidableEq

def Problem.message? : Problem → Option Text
  | .notInstalled name => some ("The module '" ++ name ++ "' is not installed!")
  | _ => none

namespace Tree

def file? (t : Tree) (l : Location) : Option Text :=
  t.files.lookup l

/-- Whether a location is a folder. All folders outside of the store are there. -/
def isFolder (t : Tree) (l : Location) : Bool :=
  t.folders.contains l || (!l.isEmpty && l.all (· == up)) || l == top

def occupied (t : Tree) (l : Location) : Bool :=
  (t.file? l).isSome || t.isFolder l

def above (l : Location) : Location :=
  if l == top then top
  else if l.all (· == up) then l ++ [up]
  else l.dropLast

def enter (l : Location) (part : Text) : Location :=
  if part = up then above l else l ++ [part]

def origin (p : Path) : Location :=
  if p.absolute then top else []

def follow (t : Tree) : Location → List Text → Except Problem Location
  | l, [] => .ok l
  | l, part :: rest =>
    if t.isFolder l then t.follow (enter l part) rest
    else if (t.file? l).isSome then .error .notAFolder
    else .error .noSuchFile

def locate (t : Tree) (p : Path) : Except Problem Location :=
  t.follow (origin p) p.parts

def pathExists (t : Tree) (p : Path) : Bool :=
  match t.locate p with
  | .ok l => t.occupied l
  | .error _ => false

def read (t : Tree) (p : Path) : Except Problem Text := do
  let l ← t.locate p
  match t.file? l with
  | some text => return text
  | none => if t.isFolder l then .error .isAFolder else .error .noSuchFile

def addFolder (t : Tree) (l : Location) : Tree :=
  if t.isFolder l then t else { t with folders := t.folders ++ [l] }

def makeFolders : Tree → Location → List Text → Except Problem Tree
  | t, l, [] => if (t.file? l).isSome then .error .notAFolder else .ok (t.addFolder l)
  | t, l, part :: rest =>
    if (t.file? l).isSome then .error .notAFolder
    else (t.addFolder l).makeFolders (enter l part) rest

/-- Makes the folder at a path with all folders above it, unless something is there. -/
def ensureFolder (t : Tree) (p : Path) : Except Problem Tree :=
  if t.pathExists p then .ok t else t.makeFolders (origin p) p.parts

def setFile (l : Location) (text : Text) : List (Location × Text) → List (Location × Text)
  | [] => [(l, text)]
  | (k, old) :: rest => if k = l then (l, text) :: rest else (k, old) :: setFile l text rest

def write (t : Tree) (p : Path) (text : Text) : Except Problem Tree := do
  let folder ← t.locate p.parent
  if !t.isFolder folder then
    if (t.file? folder).isSome then .error .notAFolder else .error .noSuchFile
  else
    let l ← t.locate p
    if t.isFolder l then .error .isAFolder
    else return { t with files := setFile l text t.files }

/-- Whether a location is a folder or lies somewhere in it. All that is not absolute lies in the folders
above the store, as far as it does not lead higher up, and everything lies in the root. -/
def holds (folder l : Location) : Bool :=
  if folder == top then true
  else if folder.all (· == up) then
    !top.isPrefixOf l && decide ((l.takeWhile (· == up)).length ≤ folder.length)
  else folder.isPrefixOf l

def removeFolder (t : Tree) (l : Location) : Tree where
  files := t.files.filter fun (k, _) => !holds l k
  folders := t.folders.filter fun k => !holds l k

/-- All locations above a location, from the folder of the store down. -/
def foldersAbove (l : Location) : List Location :=
  (List.range l.length).map fun n => l.take n

def ofFiles (files : List (Text × Text)) : Tree :=
  files.foldl
    (fun t (name, text) =>
      let l := (Path.ofText name).parts
      { (foldersAbove l).foldl addFolder t with files := setFile l text t.files })
    ⟨[], [[]]⟩

def fileNames (t : Tree) : List Text :=
  (t.files.map (·.1)).filter (fun l => l.head? != some up && !top.isPrefixOf l) |>.map (join ['/'])

def folderNames (t : Tree) : List Text :=
  t.folders.filter (fun l => !l.isEmpty && l.head? != some up && !top.isPrefixOf l) |>.map
    (join ['/'])

end Tree

/-! ### Working on the store -/

/-- The tree, what has been printed, and the texts that can be downloaded. -/
structure State where
  tree : Tree
  remote : List (Text × Text)
  printed : List Text := []
  deriving Repr

/-- Work on the store. What has been done stays done when it stops. -/
abbrev Work := ExceptT Problem (StateM State)

namespace Work

def say (quiet : Bool) (line : Text) : Work Unit :=
  if quiet then pure () else modify fun s => { s with printed := s.printed ++ [line] }

def setTree (r : Except Problem Tree) : Work Unit := do
  match r with
  | .ok t => modify fun s => { s with tree := t }
  | .error e => throw e

end Work

def readLineEnds : Text → Text
  | [] => []
  | '\r' :: '\n' :: rest => '\n' :: readLineEnds rest
  | c :: rest => (if c == '\r' then '\n' else c) :: readLineEnds rest

namespace Tree

def isInstalled (t : Tree) (x : ModuleName) : Bool :=
  t.pathExists (ModuleName.path x)

def isConverted (t : Tree) (x : ModuleName) : Bool :=
  t.pathExists (ModuleName.convertedPath x)

def moduleText (t : Tree) (x : ModuleName) : Except Problem Text :=
  if t.isInstalled x then (t.read (ModuleName.path x)).map readLineEnds
  else .error (.notInstalled x)

end Tree

end Geoscript.Store
