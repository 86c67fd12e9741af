import Geoscript.Store.Bundle

/-! What the store is asked for. A request that stops leaves the store as far as it got. -/

namespace Geoscript.Store

inductive Request where
  | url (x : ModuleName)
  | path (x : ModuleName)
  | convertedPath (x : ModuleName)
  | isInstalled (x : ModuleName)
  | isConverted (x : ModuleName)
  | text (x : ModuleName)
  | dependencies (x : ModuleName)
  | install (x : ModuleName) (update quiet : Bool)
  | uninstall (x : ModuleName) (quiet : Bool)
  | bundle (x : ModuleName) (rounds : Nat)
  deriving Repr, DecidableEq

inductive Reply where
  | text (t : Text)
  | texts (ts : List Text)
  | path (p : Path)
  | truth (b : Bool)
  | done
  deriving Repr, DecidableEq

namespace Request

def name : Request → ModuleName
  | .url x | .path x | .convertedPath x | .isInstalled x | .isConverted x | .text x | .dependencies x
  | .install x _ _ | .uninstall x _ | .bundle x _ => x

/-- Performs a request. The result is what it comes to with the store it leaves, or `none` if it does not
come to an end. -/
def perform (r : Request) (s : State) : Option (Except Problem Reply × State) :=
  match r with
  | .url x => some (.ok (.text x.url), s)
  | .path x => some (.ok (.path x.path), s)
  | .convertedPath x => some (.ok (.path x.convertedPath), s)
  | .isInstalled x => some (.ok (.truth (s.tree.isInstalled x)), s)
  | .isConverted x => some (.ok (.truth (s.tree.isConverted x)), s)
  | .text x => some ((s.tree.moduleText x).map .text, s)
  | .dependencies x => some ((s.tree.dependencies x).map .texts, s)
  | .install x update quiet => some (((fun _ => .done) <$> Store.install update quiet x : Work Reply).run s)
  | .uninstall x quiet => some (((fun _ => .done) <$> Store.uninstall quiet x : Work Reply).run s)
  | .bundle x rounds => (s.tree.bundle rounds x).map fun r => (r.map .text, s)

end Request

end Geoscript.Store
