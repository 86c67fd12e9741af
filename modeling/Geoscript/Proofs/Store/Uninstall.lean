import Geoscript.Proofs.Store.Place

/-! Uninstalling a module removes the folder that its file lies in, so a module that is required by its neighbour goes
with it. -/

namespace Geoscript.Store
open Work

variable {x y : ModuleName} {s : State}

theorem run_uninstall (quiet : Bool) {f : Location} (h : s.tree.isInstalled x)
    (hf : s.tree.locate x.path.parent = .ok f) :
    ∃ lines, (uninstall quiet x).run s =
      (.ok (), { s with tree := s.tree.removeFolder f, printed := s.printed ++ lines }) := by
  unfold uninstall
  rw [run_get_bind, if_pos h, run_bind_ok (by rw [run_lift, hf])]
  exact run_say quiet _ { s with tree := s.tree.removeFolder f }

theorem locate_folder (hx : x.Direct) (h : s.tree.isInstalled x) :
    s.tree.locate x.path.parent = .ok x.path.parent.place :=
  Tree.locate_parent hx ((Tree.pathExists_iff hx).mp h).1

/-- Uninstalling an installed module ends well. Another installed module stays installed, with its text, if
its file does not lie in the folder of the first one, and otherwise it is gone. -/
theorem uninstall_keeps_iff (quiet : Bool) (hx : x.Direct) (hy : y.Direct) (hxs : s.tree.isInstalled x)
    (hys : s.tree.isInstalled y) :
    ∃ s', (uninstall quiet x).run s = (.ok (), s') ∧
      (s'.tree.isInstalled y ↔ Tree.holds x.path.parent.place y.path.place = false) ∧
      (s'.tree.isInstalled y → s'.tree.moduleText y = s.tree.moduleText y) := by
  obtain ⟨lines, hrun⟩ := run_uninstall quiet hxs (locate_folder hx hxs)
  have hinstalled := Tree.isInstalled_removeFolder (f := x.path.parent.place) hy hys
  refine ⟨_, hrun, ?_, fun h => ?_⟩
  · rw [hinstalled, Bool.not_eq_true']
  · rw [hinstalled, Bool.not_eq_true'] at h
    exact Tree.moduleText_removeFolder hy hys h

/-- Two modules of one folder, of which the first requires the second, and one of the folder above. -/
def neighbours : State where
  tree := Tree.ofFiles [
    ("users/a/b/x.js", "var y = require('users/a/b:y')"),
    ("users/a/b/y.js", "exports.v = 1"),
    ("users/a/z.js", "exports.w = 2")]
  remote := []

theorem required_neighbour_uninstalled :
    (neighbours.tree.dependencies "users/a/b:x".toList).toOption = some ["users/a/b:y".toList] ∧
      ∃ s', (uninstall false "users/a/b:x".toList).run neighbours = (.ok (), s') ∧
        s'.tree.isInstalled "users/a/b:y".toList = false ∧ s'.tree.isInstalled "users/a:z".toList ∧
        (s'.tree.moduleText "users/a:z".toList).toOption = some "exports.w = 2".toList := by
  have hx : ModuleName.Direct "users/a/b:x".toList := by decide +kernel
  have hxs : neighbours.tree.isInstalled "users/a/b:x".toList := by decide +kernel
  refine ⟨by decide +kernel, ?_⟩
  obtain ⟨s', hrun, hy, -⟩ := uninstall_keeps_iff (y := "users/a/b:y".toList) false hx (by decide +kernel) hxs
    (by decide +kernel)
  obtain ⟨s'', hrun', hz, htext⟩ := uninstall_keeps_iff (y := "users/a:z".toList) false hx (by decide +kernel) hxs
    (by decide +kernel)
  obtain rfl : s' = s'' := congrArg Prod.snd (hrun.symm.trans hrun')
  have hkept : s'.tree.isInstalled "users/a:z".toList := hz.mpr (by decide +kernel)
  refine ⟨s', hrun, ?_, hkept, ?_⟩
  · rw [← Bool.not_eq_true, hy]
    decide +kernel
  · rw [htext hkept]
    decide +kernel

end Geoscript.Store
