import Geoscript.Proofs.Store.Grounded
import Geoscript.Proofs.Store.Install
import Geoscript.Proofs.Store.Uninstall
import Geoscript.Store.Request

/-! What requests change. Only installing writes files and only uninstalling deletes them (`perform_cases`). An
installation without updates leaves the files that are there alone, unless a name leads up again
(`climbing_name_overwrites`), and a module stays until its folder is removed (`files_changed_by_requests`). -/

namespace Geoscript.Store
open List Work

variable {update quiet : Bool} {x y : ModuleName} {s t u : State} {names : List ModuleName}

/-! ### One module -/

/-- What the installation of one module does to the tree, whether it ends or stops: nothing, or it makes the
folder of the module, or it also writes the file. -/
theorem installOne_cases (update quiet : Bool) (x : ModuleName) (s : State) :
    ((installOne update quiet x).run s).2.tree = s.tree ∨
    (s.tree.isInstalled x = false ∨ update) ∧ ∃ tree, s.tree.ensureFolder x.folder = .ok tree ∧
      (((installOne update quiet x).run s).2.tree = tree ∨
        ∃ body, tree.write x.path body = .ok ((installOne update quiet x).run s).2.tree) := by
  cases hx : s.tree.isInstalled x && !update with
  | true =>
    left
    obtain ⟨lines, hsay⟩ := run_say quiet ("The module '" ++ x ++ "' is already installed!") s
    unfold installOne
    rw [run_get_bind, if_pos hx, hsay]
  | false =>
    have hnew : s.tree.isInstalled x = false ∨ update := by
      rwa [Bool.and_eq_false_iff, Bool.not_eq_false'] at hx
    obtain ⟨lines, hone⟩ := run_installOne update quiet hx
    rw [hone]
    cases hfolder : s.tree.ensureFolder x.folder with
    | error e => exact .inl rfl
    | ok tree =>
      refine .inr ⟨hnew, tree, rfl, ?_⟩
      cases s.remote.lookup x.url with
      | none => exact .inl rfl
      | some body =>
        cases hwrite : tree.write x.path body with
        | error e => exact .inl (by simp only [hwrite])
        | ok tree' => exact .inr ⟨body, by simp only [hwrite]⟩

/-- What an installation that goes through the given modules may do to a tree. Without updates a file that is
there keeps its text, unless one of the modules leads to it by a name with a step up. -/
structure Installs (update : Bool) (names : List ModuleName) (t t' : Tree) : Prop where
  tree : t.Extends t'
  grounded : t.Grounded → t'.Grounded
  kept : update = false → t.Grounded → ∀ l text, t.file? l = some text →
    t'.file? l = some text ∨ ∃ m ∈ names, ¬m.Direct ∧ t'.locate m.path = .ok l

namespace Installs
variable {t t' t'' : Tree}

theorem refl (t : Tree) : Installs update names t t :=
  ⟨.refl t, id, fun _ _ _ _ h => .inl h⟩

theorem trans (h : Installs update names t t') (h' : Installs update names t' t'') : Installs update names t t'' where
  tree := h.tree.trans h'.tree
  grounded hg := h'.grounded (h.grounded hg)
  kept hupdate hg l text hl := by
    rcases h.kept hupdate hg l text hl with hl | ⟨m, hm, hup, hlocate⟩
    · exact h'.kept hupdate (h.grounded hg) l text hl
    · exact .inr ⟨m, hm, hup, h'.tree.follow hlocate⟩

theorem ensureFolder {p : Path} (h : t.ensureFolder p = .ok t') : Installs update names t t' where
  tree := (Tree.ensureFolder_ok h).1
  grounded hg := hg.ensureFolder h
  kept _ _ l text hl := by
    rw [Tree.file?, (Tree.ensureFolder_ok h).2]
    exact .inl hl

theorem write {body : Text} (hx : x ∈ names) (hfree : x.Direct → t.file? x.path.place = none)
    (h : t.write x.path body = .ok t') : Installs update names t t' where
  tree := Tree.extends_write h
  grounded hg := hg.write h
  kept _ _ l text hl := by
    have hext := Tree.extends_write h
    obtain ⟨k, hk, rfl⟩ := Tree.write_ok h
    by_cases heq : l = k
    · subst heq
      by_cases hdirect : x.Direct
      · obtain ⟨rfl, -⟩ := (Tree.locate_eq_ok_iff hdirect).mp hk
        rw [hfree hdirect] at hl
        cases hl
      · exact .inr ⟨x, hx, hdirect, hext.follow hk⟩
    · left
      rwa [Tree.file?, Tree.lookup_setFile, if_neg heq]

end Installs

theorem installs_installOne (update quiet : Bool) (hx : x ∈ names) (s : State) :
    Installs update names s.tree ((installOne update quiet x).run s).2.tree := by
  rcases installOne_cases update quiet x s with htree | ⟨hnew, tree, hfolder, htree | ⟨body, hwrite⟩⟩
  · rw [htree]
    exact .refl _
  · rw [htree]
    exact .ensureFolder hfolder
  · refine ⟨(Tree.ensureFolder_ok hfolder).1.trans (Tree.extends_write hwrite),
      fun hg => (hg.ensureFolder hfolder).write hwrite, fun hupdate hg => ?_⟩
    -- A direct module whose file is there counts as installed, so it is not written.
    have hfree : x.Direct → tree.file? x.path.place = none := by
      intro hdirect
      rw [Tree.file?, (Tree.ensureFolder_ok hfolder).2, ← Option.not_isSome_iff_eq_none]
      intro hfile
      have hinstalled := hg.isInstalled hdirect (by rw [Tree.occupied, Tree.file?, hfile, Bool.true_or])
      rcases hnew with hnew | hnew
      · exact Bool.false_ne_true (hnew.symm.trans hinstalled)
      · exact Bool.false_ne_true (hupdate.symm.trans hnew)
    exact (Installs.trans (.ensureFolder hfolder) (.write hx hfree hwrite)).kept hupdate hg

/-! ### A whole installation -/

theorem tree_visit (update quiet : Bool) (x : ModuleName) (s : State) :
    ((visit update quiet x).run s).2.tree = ((installOne update quiet x).run s).2.tree := by
  unfold visit
  rcases hone : (installOne update quiet x).run s with ⟨r, t⟩
  cases r with
  | error e => rw [run_bind_error hone]
  | ok =>
    obtain ⟨lines, hsay⟩ := run_say quiet ("Checking dependencies for " ++ x ++ "...") t
    rw [run_bind_ok hone, run_bind_ok hsay, run_get_bind, run_lift]

theorem installs_visit (update quiet : Bool) (hx : x ∈ names) (s : State) :
    Installs update names s.tree ((visit update quiet x).run s).2.tree := by
  rw [tree_visit]
  exact installs_installOne update quiet hx s

theorem installs_installQueue {fuel : Nat} {queue visited : List ModuleName} (henough : Enough names s)
    (hqueue : ∀ m ∈ queue, m ∈ names) :
    Installs update names s.tree ((installQueue update quiet fuel queue visited).run s).2.tree := by
  induction fuel generalizing queue visited s with
  | zero => exact .refl _
  | succ fuel ih =>
    cases queue with
    | nil =>
      obtain ⟨lines, hsay⟩ := run_say quiet allInstalled s
      unfold installQueue
      rw [run_bind_ok hsay]
      exact .refl _
    | cons x rest =>
      have hstep := installs_visit update quiet (hqueue x mem_cons_self) s
      unfold installQueue
      rcases hx : (visit update quiet x).run s with ⟨r, t⟩
      rw [hx] at hstep
      cases r with
      | error e =>
        rw [run_bind_error hx]
        exact hstep
      | ok required =>
        obtain ⟨henough', hrequired⟩ := henough.visit hx
        rw [run_bind_ok hx]
        refine hstep.trans (ih henough' fun m hm => ?_)
        rcases mem_append.mp (mem_pending.mp hm).1 with hm | hm
        · exact hqueue m hm
        · exact hrequired m hm

theorem installs_install (update quiet : Bool) (x : ModuleName) (s : State) :
    Installs update (namesFrom x s) s.tree ((install update quiet x).run s).2.tree := by
  rw [run_install]
  have hready := ready_start x s
  exact installs_installQueue hready.enough hready.named

/-! ### One request -/

/-- What uninstalling does to the tree: nothing, or it removes the folder of an installed module. -/
theorem uninstall_cases (quiet : Bool) (x : ModuleName) (s : State) : ((uninstall quiet x).run s).2.tree = s.tree ∨
    s.tree.isInstalled x ∧ ∃ f, s.tree.locate x.path.parent = .ok f ∧
      ((uninstall quiet x).run s).2.tree = s.tree.removeFolder f := by
  cases hx : s.tree.isInstalled x with
  | false =>
    obtain ⟨lines, hsay⟩ := run_say quiet ("The module '" ++ x ++ "' is not installed!") s
    left
    unfold uninstall
    rw [run_get_bind, if_neg (Bool.eq_false_iff.mp hx), hsay]
  | true =>
    cases hf : s.tree.locate x.path.parent with
    | error e =>
      left
      unfold uninstall
      rw [run_get_bind, if_pos hx, run_bind_error (by rw [run_lift, hf])]
    | ok f =>
      obtain ⟨lines, hrun⟩ := run_uninstall quiet hx hf
      exact .inr ⟨rfl, f, rfl, by rw [hrun]⟩

theorem state_map {α β : Type} (f : α → β) (w : Work α) (s : State) : ((f <$> w).run s).2 = (w.run s).2 := by
  rcases hw : w.run s with ⟨r, t⟩
  rw [map_eq_pure_bind]
  cases r with
  | ok a => rw [run_bind_ok hw, run_pure]
  | error e => rw [run_bind_error hw]

theorem perform_install (x : ModuleName) (update quiet : Bool) (s : State) :
    ∃ outcome, (Request.install x update quiet).perform s = some (outcome, ((install update quiet x).run s).2) := by
  rw [← state_map fun _ => Reply.done]
  exact ⟨_, rfl⟩

theorem perform_uninstall (x : ModuleName) (quiet : Bool) (s : State) :
    ∃ outcome, (Request.uninstall x quiet).perform s = some (outcome, ((uninstall quiet x).run s).2) := by
  rw [← state_map fun _ => Reply.done]
  exact ⟨_, rfl⟩

theorem perform_cases {r : Request} {outcome : Except Problem Reply} (h : r.perform s = some (outcome, t)) : t = s ∨
    (∃ x update quiet, r = .install x update quiet ∧ t = ((install update quiet x).run s).2) ∨
    ∃ x quiet, r = .uninstall x quiet ∧ t = ((uninstall quiet x).run s).2 := by
  cases r with
  | install x update quiet =>
    obtain ⟨outcome', hperform⟩ := perform_install x update quiet s
    exact .inr (.inl ⟨x, update, quiet, rfl, (Prod.mk.inj (Option.some.inj (h.symm.trans hperform))).2⟩)
  | uninstall x quiet =>
    obtain ⟨outcome', hperform⟩ := perform_uninstall x quiet s
    exact .inr (.inr ⟨x, quiet, rfl, (Prod.mk.inj (Option.some.inj (h.symm.trans hperform))).2⟩)
  | bundle x rounds =>
    obtain ⟨r, -, hr⟩ := Option.map_eq_some_iff.mp h
    exact .inl (Prod.mk.inj hr).2.symm
  | _ => exact .inl (Prod.mk.inj (Option.some.inj h)).2.symm

theorem grounded_perform {r : Request} {outcome : Except Problem Reply} (h : r.perform s = some (outcome, t))
    (hs : s.tree.Grounded) : t.tree.Grounded := by
  rcases perform_cases h with rfl | ⟨x, update, quiet, -, rfl⟩ | ⟨x, quiet, -, rfl⟩
  · exact hs
  · exact (installs_install update quiet x s).grounded hs
  · rcases uninstall_cases quiet x s with htree | ⟨-, f, -, htree⟩
    · rwa [htree]
    · rw [htree]
      exact hs.removeFolder f

/-- A text requires a module by a name with a step up that leads to the given place. -/
def State.Climbs (s : State) (t : Tree) (l : Location) : Prop :=
  ∃ text ∈ s.texts, ∃ m ∈ requiredBy (readLineEnds text), ¬m.Direct ∧ t.locate m.path = .ok l

/-- A file that is new or has another text was written by an installation, which without updates leaves the
files that are there as they are, up to names with a step up. A file that is gone was uninstalled. -/
theorem file_changed {r : Request} {outcome : Except Problem Reply} (hs : s.tree.Grounded) (hr : r.name.Direct)
    (h : r.perform s = some (outcome, t)) {l : Location} (hl : t.tree.file? l ≠ s.tree.file? l) :
    (∃ x update quiet, r = .install x update quiet ∧ (t.tree.file? l).isSome ∧
      (update = false → (s.tree.file? l).isSome → s.Climbs t.tree l)) ∨
    ∃ x quiet, r = .uninstall x quiet ∧ t.tree.file? l = none := by
  rcases perform_cases h with rfl | ⟨x, update, quiet, rfl, rfl⟩ | ⟨x, quiet, rfl, rfl⟩
  · exact absurd rfl hl
  · have hinstalls := installs_install update quiet x s
    refine .inl ⟨x, update, quiet, rfl, ?_, fun hupdate hold => ?_⟩
    · cases hold : s.tree.file? l with
      | none =>
        rw [hold] at hl
        exact Option.isSome_iff_ne_none.mpr hl
      | some text => exact hinstalls.tree.file l (by rw [hold]; rfl)
    · obtain ⟨text, htext⟩ := Option.isSome_iff_exists.mp hold
      rcases hinstalls.kept hupdate hs l text htext with hkept | ⟨m, hm, hup, hlocate⟩
      · exact absurd (hkept.trans htext.symm) hl
      · rcases mem_cons.mp hm with rfl | hm
        · exact absurd hr hup
        · obtain ⟨text, htext, hm⟩ := mem_flatMap.mp hm
          exact ⟨text, htext, m, hm, hup, hlocate⟩
  · refine .inr ⟨x, quiet, rfl, ?_⟩
    rcases uninstall_cases quiet x s with htree | ⟨-, f, -, htree⟩
    · rw [htree] at hl
      exact absurd rfl hl
    · rw [htree, Tree.file?_removeFolder] at hl ⊢
      split at hl
      · next hheld => rw [if_pos hheld]
      · exact absurd rfl hl

theorem not_installed_after {r : Request} {outcome : Except Problem Reply} (hr : r.name.Direct) (hy : y.Direct)
    (h : r.perform s = some (outcome, t)) (hs : s.tree.isInstalled y) (ht : t.tree.isInstalled y = false) :
    ∃ x quiet, r = .uninstall x quiet ∧ s.tree.isInstalled x ∧ Tree.holds x.path.parent.place y.path.place := by
  rcases perform_cases h with rfl | ⟨x, update, quiet, rfl, rfl⟩ | ⟨x, quiet, rfl, rfl⟩
  · exact absurd (ht.symm.trans hs) Bool.false_ne_true
  · have hkept := (installs_install update quiet x s).tree.isInstalled hs
    exact absurd (ht.symm.trans hkept) Bool.false_ne_true
  · rcases uninstall_cases quiet x s with htree | ⟨hx, f, hf, htree⟩
    · rw [htree, hs] at ht
      cases ht
    · refine ⟨x, quiet, rfl, hx, ?_⟩
      obtain rfl : x.path.parent.place = f := Except.ok.inj ((locate_folder hr hx).symm.trans hf)
      rw [htree, Tree.isInstalled_removeFolder hy hs] at ht
      rwa [Bool.not_eq_false'] at ht

/-! ### Any number of requests -/

/-- Requests performed one after the other, each of which ends or stops. -/
inductive Run : State → List Request → State → Prop
  | done (s : State) : Run s [] s
  | next {s t u : State} {r : Request} {outcome : Except Problem Reply} {requests : List Request} :
      r.perform s = some (outcome, t) → Run t requests u → Run s (r :: requests) u

namespace Run
variable {requests : List Request}

theorem grounded (h : Run s requests t) (hs : s.tree.Grounded) : t.tree.Grounded := by
  induction h with
  | done s => exact hs
  | next hr _ ih => exact ih (grounded_perform hr hs)

theorem not_installed (h : Run s requests t) (hnames : ∀ r ∈ requests, r.name.Direct) (hy : y.Direct)
    (hs : s.tree.isInstalled y) (ht : t.tree.isInstalled y = false) :
    ∃ front x quiet back u, requests = front ++ .uninstall x quiet :: back ∧ Run s front u ∧
      u.tree.isInstalled x ∧ u.tree.isInstalled y ∧ Tree.holds x.path.parent.place y.path.place := by
  induction h with
  | done s => exact absurd (ht.symm.trans hs) Bool.false_ne_true
  | @next s t u r outcome requests hr hrest ih =>
    rw [forall_mem_cons] at hnames
    cases hkept : t.tree.isInstalled y with
    | true =>
      obtain ⟨front, x, quiet, back, v, rfl, hfront, hx⟩ := ih hnames.2 hkept ht
      exact ⟨r :: front, x, quiet, back, v, rfl, .next hr hfront, hx⟩
    | false =>
      obtain ⟨x, quiet, rfl, hx, hheld⟩ := not_installed_after hnames.1 hy hr hs hkept
      exact ⟨[], x, quiet, requests, s, rfl, .done s, hx, hs, hheld⟩

end Run

/-- A store at the start, with its files and what can be downloaded. -/
def State.start (files remote : List (Text × Text)) : State where
  tree := Tree.ofFiles files
  remote := remote

/-- After any requests from any start, the next one changes files only by installing and deletes files only by
uninstalling; without updates installing changes no file that is there, except where a text requires it by a
name with a step up. A module stays installed as long as no installed module is uninstalled whose folder
holds it. -/
theorem files_changed_by_requests (files remote : List (Text × Text)) {requests : List Request}
    (hrun : Run (.start files remote) requests s) :
    (∀ (r : Request) (outcome : Except Problem Reply) (t : State), r.name.Direct →
      r.perform s = some (outcome, t) → ∀ l, t.tree.file? l ≠ s.tree.file? l →
        (∃ x update quiet, r = .install x update quiet ∧ (t.tree.file? l).isSome ∧
          (update = false → (s.tree.file? l).isSome → s.Climbs t.tree l)) ∨
        ∃ x quiet, r = .uninstall x quiet ∧ t.tree.file? l = none) ∧
    ∀ (more : List Request) (t : State) (y : ModuleName), (∀ r ∈ more, r.name.Direct) → Run s more t → y.Direct →
      s.tree.isInstalled y → t.tree.isInstalled y = false →
      ∃ front x quiet back u, more = front ++ .uninstall x quiet :: back ∧ Run s front u ∧
        u.tree.isInstalled x ∧ u.tree.isInstalled y ∧
        Tree.holds x.path.parent.place y.path.place := by
  have hs : s.tree.Grounded := hrun.grounded (Tree.grounded_ofFiles files)
  exact ⟨fun r outcome t hr h l hl => file_changed hs hr h hl,
    fun more t y hnames hmore hy hys hyt => hmore.not_installed hnames hy hys hyt⟩

/-- A module that requires another one by way of a folder that is still to be made. -/
def climb : State :=
  .start [("m.js", "require('a/../b')"), ("b.js", "old")]
    [("https://storage.googleapis.com/ee-sources/a/../b", "new")]

/-- The file of the required module is overwritten although nothing is to be updated. -/
theorem climbing_name_overwrites : ModuleName.Direct "m".toList ∧ climb.tree.isInstalled "b".toList ∧
      climb.tree.file? ["b.js".toList] = some "old".toList ∧
      ((install false false "m".toList).run climb).2.tree.file? ["b.js".toList] = some "new".toList := by
  decide +kernel

theorem climbed_to_or_taken_along : (∃ outcome t, (Request.install "m" false false).perform climb = some (outcome, t) ∧
      climb.Climbs t.tree ["b.js"]) ∧
    ∃ t, Run climb [.uninstall "m" false] t ∧ t.tree.isInstalled "b" = false ∧
      ∃ front x quiet back u, [Request.uninstall "m" false] = front ++ .uninstall x quiet :: back ∧
        Run climb front u ∧ u.tree.isInstalled x ∧
        Tree.holds (ModuleName.path x).parent.place (ModuleName.path "b").place := by
  have hm : ModuleName.Direct "m" := by decide +kernel
  have hb : ModuleName.Direct "b" := by decide +kernel
  have hinstalled : climb.tree.isInstalled "b" := by decide +kernel
  have hold : (climb.tree.file? ["b.js"]).isSome := by decide +kernel
  have hchanged : ((install false false "m").run climb).2.tree.file? ["b.js"] ≠
      climb.tree.file? ["b.js"] := by
    decide +kernel
  have hgone : ((uninstall false "m").run climb).2.tree.isInstalled "b" = false := by
    decide +kernel
  obtain ⟨hstep, hmore⟩ := files_changed_by_requests
    [("m.js", "require('a/../b')"), ("b.js", "old")]
    [("https://storage.googleapis.com/ee-sources/a/../b", "new")] (.done climb)
  constructor
  · obtain ⟨outcome, hperform⟩ := perform_install "m" false false climb
    refine ⟨outcome, _, hperform, ?_⟩
    rcases hstep (.install "m" false false) _ _ hm hperform _ hchanged with
      ⟨x, update, quiet, hr, -, hclimbs⟩ | ⟨x, quiet, hr, -⟩
    · obtain ⟨-, rfl, -⟩ := Request.install.inj hr
      exact hclimbs rfl hold
    · cases hr
  · obtain ⟨outcome, hperform⟩ := perform_uninstall "m" false climb
    have hrun : Run climb [.uninstall "m" false] _ := .next hperform (.done _)
    obtain ⟨front, x, quiet, back, u, hsplit, hfront, hx, -, hheld⟩ :=
      hmore _ _ _ (fun r hr => by rw [mem_singleton.mp hr]; exact hm) hrun hb hinstalled hgone
    exact ⟨_, hrun, hgone, front, x, quiet, back, u, hsplit, hfront, hx, hheld⟩

end Geoscript.Store
