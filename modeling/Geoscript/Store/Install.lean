import Geoscript.Pattern.Matcher
import Geoscript.Store.Basic

/-! A module is installed together with the modules it requires, and with those that they require, each once and
nearest first. -/

namespace Geoscript.Store

open Text

def requireCall : Pattern :=
  .all [.str "require(", .group 1 .restFew, .str ")"]

def unquoted (t : Text) : Text :=
  without (fun c => c == '"' || c == '\'') t

def requiredBy (text : Text) : List ModuleName :=
  (requireCall.occurrences text).map fun m => unquoted (m.group 1)

def Tree.dependencies (t : Tree) (x : ModuleName) : Except Problem (List ModuleName) :=
  (t.moduleText x).map requiredBy

/-- Downloads one module, unless it is there and is not to be updated. -/
def installOne (update quiet : Bool) (x : ModuleName) : Work Unit := do
  if (← get).tree.isInstalled x && !update then
    Work.say quiet ("The module '" ++ x ++ "' is already installed!")
  else
    Work.say quiet ("Downloading '" ++ x ++ "'...")
    Work.setTree ((← get).tree.ensureFolder (ModuleName.folder x))
    match (← get).remote.lookup (ModuleName.url x) with
    | none => throw .unreachable
    | some body => Work.setTree ((← get).tree.write (ModuleName.path x) body)
    Work.say quiet ("The module '" ++ x ++ "' was successfully installed!")

/-- The step of one module: it is installed and then read for the modules that it requires. -/
def visit (update quiet : Bool) (x : ModuleName) : Work (List ModuleName) := do
  installOne update quiet x
  Work.say quiet ("Checking dependencies for " ++ x ++ "...")
  liftM ((← get).tree.dependencies x)

def allInstalled : Text :=
  "All dependencies were successfully installed!"

def pending (visited queue : List ModuleName) : List ModuleName :=
  queue.filter fun y => !visited.contains y

/-- Installs the modules of a queue and those they require, at most `fuel` of them, and returns the
modules gone through in their order. -/
def installQueue (update quiet : Bool) :
    Nat → List ModuleName → List ModuleName → Work (List ModuleName)
  | 0, _, visited => pure visited
  | _ + 1, [], visited => do
    Work.say quiet allInstalled
    pure visited
  | fuel + 1, x :: rest, visited => do
    let required ← visit update quiet x
    let visited := visited ++ [x]
    installQueue update quiet fuel (pending visited (x :: rest ++ required)) visited

/-- Runs through a list of modules, with runs nested at most `fuel` deep, and returns the list as the run
leaves it and the modules gone through in their order. The first module that has not been gone through
adds what it requires to the list itself; what is pending then is a list of its own, which is run through
before the rest of this one, and to which later modules add what they require. -/
def installList (update quiet : Bool) :
    Nat → List ModuleName → List ModuleName → Work (List ModuleName × List ModuleName)
  | 0, queue, visited => pure (queue, visited)
  | _ + 1, [], visited => do
    Work.say quiet allInstalled
    pure ([], visited)
  | fuel + 1, queue, visited =>
    match queue.dropWhile visited.contains with
    | [] => pure (queue, visited)
    | x :: rest => do
      let required ← visit update quiet x
      let visited := visited ++ [x]
      let run ← installList update quiet fuel (pending visited (queue ++ required)) visited
      let (_, visited) ← (rest ++ required).foldlM
        (fun (own, visited) y => do
          if visited.contains y then pure (own, visited)
          else
            let required ← visit update quiet y
            let visited := visited ++ [y]
            installList update quiet fuel (pending visited (own ++ required)) visited)
        run
      pure (queue ++ required, visited)

def nameBound (s : State) : Nat :=
  let texts := s.tree.files.map (·.2) ++ s.remote.map (·.2)
  texts.foldl (fun n text => n + (requiredBy (readLineEnds text)).length) 0

/-- Installs a module with all it requires, and returns the modules gone through in their order. -/
def install (update quiet : Bool) (x : ModuleName) : Work (List ModuleName) := do
  let (_, visited) ← installList update quiet (nameBound (← get) + 2) [x] []
  pure visited

def uninstall (quiet : Bool) (x : ModuleName) : Work Unit := do
  let t := (← get).tree
  if t.isInstalled x then
    let l ← liftM (t.locate (ModuleName.path x).parent)
    modify fun s => { s with tree := t.removeFolder l }
    Work.say quiet ("The module '" ++ x ++ "' was successfully uninstalled!")
  else
    Work.say quiet ("The module '" ++ x ++ "' is not installed!")

end Geoscript.Store
