import Geoscript.Proofs.Store.Requests

/-! An installation is complete. A module may be written to the file of an earlier one, but whoever wrote a file last
is also read last (`moduleText_after_visit`), so that what each module requires has been gone through. -/

namespace Geoscript.Store
open List Work

variable {update quiet : Bool} {x m : ModuleName} {s s' : State} {t : Tree} {text : Text}
  {names order : List ModuleName}

theorem moduleText_after_visit (update quiet : Bool) (x : ModuleName) (s : State)
    (h : s.tree.moduleText m = .ok text) :
    ((visit update quiet x).run s).2.tree.moduleText m = .ok text ∨
    ∃ new, ((visit update quiet x).run s).2.tree.moduleText m = .ok new ∧
      ((visit update quiet x).run s).2.tree.moduleText x = .ok new := by
  rw [tree_visit]
  obtain ⟨l, raw, hl, hraw, rfl⟩ := moduleText_eq_ok_iff.mp h
  rcases installOne_cases update quiet x s with htree | ⟨-, tree, hfolder, htree⟩
  · rw [htree]
    exact .inl h
  · obtain ⟨hext, hfiles⟩ := Tree.ensureFolder_ok hfolder
    have hraw' : tree.file? l = some raw := by rwa [Tree.file?, hfiles]
    rcases htree with htree | ⟨body, hwrite⟩
    · rw [htree]
      exact .inl (moduleText_eq_ok_iff.mpr ⟨l, raw, hext.follow hl, hraw', rfl⟩)
    · have hext' := hext.trans (Tree.extends_write hwrite)
      obtain ⟨k, hk, htree⟩ := Tree.write_ok hwrite
      have hk' := (Tree.extends_write hwrite).follow hk
      have hfile : ((installOne update quiet x).run s).2.tree.file? l = if l = k then some body else tree.file? l := by
        rw [htree, Tree.file?, Tree.lookup_setFile]
        rfl
      by_cases heq : l = k
      · rw [if_pos heq] at hfile
        refine .inr ⟨readLineEnds body, ?_, ?_⟩
        · exact moduleText_eq_ok_iff.mpr ⟨l, body, hext'.follow hl, hfile, rfl⟩
        · exact moduleText_eq_ok_iff.mpr ⟨l, body, heq ▸ hk', hfile, rfl⟩
      · rw [if_neg heq] at hfile
        exact .inl (moduleText_eq_ok_iff.mpr ⟨l, raw, hext'.follow hl, hfile.trans hraw', rfl⟩)

def Covered (names : List ModuleName) (t : Tree) (m : ModuleName) : Prop :=
  ∃ text, t.moduleText m = .ok text ∧ ∀ d ∈ requiredBy text, d ∈ names

theorem covered_of_dependencies {required : List ModuleName} (h : t.dependencies x = .ok required)
    (hnames : ∀ d ∈ required, d ∈ names) : Covered names t x := by
  obtain ⟨text, htext, rfl⟩ := ok_of_map h
  exact ⟨text, htext, hnames⟩

theorem Covered.visit {required : List ModuleName} (hx : (visit update quiet x).run s = (.ok required, s'))
    (hnames : ∀ d ∈ required, d ∈ names) (h : Covered names s.tree m) : Covered names s'.tree m := by
  obtain ⟨text, htext, hcovered⟩ := h
  obtain ⟨own, hown, hrequired⟩ := covered_of_dependencies (visit_ok hx) hnames
  have hafter := moduleText_after_visit update quiet x s htext
  rw [hx] at hafter
  rcases hafter with hsame | ⟨new, hm, hnew⟩
  · exact ⟨text, hsame, hcovered⟩
  · obtain rfl := Except.ok.inj (hnew.symm.trans hown)
    exact ⟨new, hm, hrequired⟩

theorem Visits.covered (names : List ModuleName) {log : List (ModuleName × List ModuleName)}
    (h : Visits update quiet s log s') (hnames : ∀ e ∈ log, ∀ d ∈ e.2, d ∈ names) :
    (∀ m, Covered names s.tree m → Covered names s'.tree m) ∧ ∀ e ∈ log, Covered names s'.tree e.1 := by
  induction h with
  | done s => exact ⟨fun _ h => h, fun _ h => (nomatch h)⟩
  | next hx hd _ ih =>
    rw [forall_mem_cons] at hnames
    obtain ⟨hkept, hlog⟩ := ih hnames.2
    exact ⟨fun m hm => hkept m (hm.visit hx hnames.1),
      forall_mem_cons.mpr ⟨hkept _ (covered_of_dependencies hd hnames.1), hlog⟩⟩

theorem install_complete (h : (install update quiet x).run s = (.ok order, s')) :
    x ∈ order ∧ ∀ m ∈ order, Covered order s'.tree m := by
  rw [run_install] at h
  obtain ⟨log, t, hvisits, hsay, rfl, hlog⟩ := run_installQueue (ready_start x s) h
  have htree : s'.tree = t.tree := by
    cases quiet <;> cases hsay <;> rfl
  have hmem : ∀ d, d ∈ log.map (·.1) ↔ d = x ∨ ∃ e ∈ log, d ∈ e.2 := by
    intro d
    rw [hlog.met, mem_eraseDups, mem_pending]
    simp
  have hcovered := (hvisits.covered (log.map (·.1)) fun e he d hd => (hmem d).mpr (.inr ⟨e, he, hd⟩)).2
  refine ⟨(hmem x).mpr (.inl rfl), fun m hm => ?_⟩
  obtain ⟨e, he, rfl⟩ := mem_map.mp hm
  rw [htree]
  exact hcovered e he

end Geoscript.Store
