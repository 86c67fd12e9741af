import Geoscript.Proofs.Store.Install
import Geoscript.Proofs.Store.Place

/-! Where a download ends. A folder is made before it. For a repository path this is the folder of the file; for an
address it is another one, and the download stops. -/

namespace Geoscript.Store
open List Work

namespace Tree
variable {t : Tree} {k l : Location} {part : Text} {parts : List Text} {p : Path} {text : Text}

/-! ### Making folders where no files are -/

def way : Location → List Text → List Location
  | l, [] => [l]
  | l, part :: parts => l :: way (enter l part) parts

theorem append_mem_way (hup : up ∉ parts) {ps : List Text} (h : ps <+: parts) : l ++ ps ∈ way l parts := by
  induction parts generalizing l ps with
  | nil =>
    rw [prefix_nil.mp h, append_nil]
    exact mem_cons_self
  | cons part parts ih =>
    rw [mem_cons, not_or] at hup
    rcases prefix_cons_iff.mp h with rfl | ⟨qs, rfl, hqs⟩
    · rw [append_nil]
      exact mem_cons_self
    · have := ih hup.2 hqs (l := l ++ [part])
      rw [append_assoc, singleton_append] at this
      rw [way, enter, if_neg (Ne.symm hup.1)]
      exact mem_cons_of_mem l this

theorem length_of_mem_way (hup : up ∉ parts) (h : k ∈ way l parts) : k.length ≤ l.length + parts.length := by
  induction parts generalizing l with
  | nil => simp [mem_singleton.mp h]
  | cons part parts ih =>
    rw [mem_cons, not_or] at hup
    rw [way, enter, if_neg (Ne.symm hup.1)] at h
    rcases mem_cons.mp h with rfl | h
    · exact Nat.le_add_right _ _
    · have := ih hup.2 h
      simp only [length_append, length_cons, length_nil] at this ⊢
      omega

theorem makeFolders_of_no_files (hfiles : t.files = []) : ∃ t', t.makeFolders l parts = .ok t' ∧
      ∀ k, t'.isFolder k ↔ t.isFolder k ∨ k ∈ way l parts := by
  have hnone : ¬(t.file? l).isSome := by simp [file?, hfiles]
  induction parts generalizing t l with
  | nil =>
    refine ⟨t.addFolder l, by rw [makeFolders, if_neg hnone], fun k => ?_⟩
    rw [isFolder_addFolder, way, mem_singleton]
  | cons part parts ih =>
    have hfiles' : (t.addFolder l).files = [] := by rw [addFolder_files, hfiles]
    obtain ⟨t', hmake, hfolder⟩ := @ih (t.addFolder l) (enter l part) hfiles' (by simp [file?, hfiles'])
    refine ⟨t', by rw [makeFolders, if_neg hnone, hmake], fun k => ?_⟩
    rw [hfolder, isFolder_addFolder, or_assoc, way, mem_cons]

theorem ensureFolder_of_no_files (hfiles : t.files = []) (p : Path) : ∃ t', t.ensureFolder p = .ok t' ∧
      (∀ k, t'.isFolder k → t.isFolder k ∨ k ∈ way (origin p) p.parts) ∧
      (up ∉ p.parts → ∀ ps, ps <+: p.parts → t'.isFolder (origin p ++ ps)) := by
  unfold ensureFolder
  split
  · next hp =>
    refine ⟨t, rfl, fun k hk => .inl hk, fun hup ps hps => ?_⟩
    obtain ⟨hleads, hplace⟩ := (pathExists_iff hup).mp hp
    by_cases heq : ps = p.parts
    · simpa [occupied, file?, hfiles, Path.place, heq] using hplace
    · exact hleads ps hps heq
  · obtain ⟨t', hmake, hfolder⟩ := @makeFolders_of_no_files t (origin p) p.parts hfiles
    exact ⟨t', hmake, fun k => (hfolder k).mp, fun hup ps hps => (hfolder _).mpr (.inr (append_mem_way hup hps))⟩

/-! ### Writing and reading a file -/

theorem write_eq_ok (hup : up ∉ p.parts) (hne : p.parts ≠ []) (hleads : t.Leads (origin p) p.parts)
    (hplace : t.isFolder p.place = false) (text : Text) :
    t.write p text = .ok { t with files := setFile p.place text t.files } := by
  have hfolder : t.isFolder p.parent.place :=
    hleads p.parts.dropLast (List.dropLast_prefix _) fun h => by
      have := congrArg length h
      have := length_pos_iff.mpr hne
      simp at *
      omega
  rw [write, locate_parent hup hleads, (locate_eq_ok_iff hup).mpr ⟨rfl, hleads⟩]
  simp [bind, Except.bind, hfolder, hplace]
  rfl

theorem read_of_file (hup : up ∉ p.parts) (hleads : t.Leads (origin p) p.parts)
    (hfile : t.file? p.place = some text) : t.pathExists p ∧ t.read p = .ok text := by
  refine ⟨(pathExists_iff hup).mpr ⟨hleads, by rw [occupied, hfile]; rfl⟩, ?_⟩
  rw [read, (locate_eq_ok_iff hup).mpr ⟨rfl, hleads⟩]
  simp only [bind, Except.bind, hfile]
  rfl

theorem write_of_no_folder {name : Text} (hstart : t.isFolder []) (hpart : part ≠ up)
    (hfolder : t.isFolder [part] = false) (hfile : t.file? [part] = none) (text : Text) :
    t.pathExists ⟨[], [part, name]⟩ = false ∧ t.write ⟨[], [part, name]⟩ text = .error .noSuchFile := by
  have hlocate : t.locate ⟨[], [part, name]⟩ = .error .noSuchFile := by
    show t.follow [] [part, name] = _
    rw [follow, if_pos hstart, enter, if_neg hpart, nil_append, follow, hfolder, hfile]
    rfl
  have hparent : t.locate ⟨[], [part]⟩ = .ok [part] := by
    show t.follow [] [part] = _
    rw [follow, if_pos hstart, enter, if_neg hpart]
    rfl
  constructor
  · rw [pathExists, hlocate]
  · rw [write, Path.parent]
    simp only [dropLast_cons_cons, dropLast_singleton, hparent, bind, Except.bind, hfolder, hfile]
    rfl

end Tree

/-! ### Downloading a module -/

variable {x : ModuleName} {s s' : State} {t : Tree} {body : Text} {update quiet : Bool}

theorem run_visit (hone : (installOne update quiet x).run s = (.ok (), s')) : ∃ lines, (visit update quiet x).run s =
      (s'.tree.dependencies x, { s' with printed := s'.printed ++ lines }) := by
  obtain ⟨lines, hsay⟩ := run_say quiet ("Checking dependencies for " ++ x ++ "...") s'
  exact ⟨lines, by rw [visit, run_bind_ok hone, run_bind_ok hsay, run_get_bind, run_lift]⟩

/-- What becomes of the first module of an installation: if it requires nothing it is the only one, and if it
stops the installation stops. -/
theorem run_install_of_visit (update quiet : Bool) (x : ModuleName) (s : State) :
    (∀ s', (visit update quiet x).run s = (.ok [], s') →
      ∃ lines, (install update quiet x).run s = (.ok [x], { s' with printed := s'.printed ++ lines })) ∧
    ∀ e s', (visit update quiet x).run s = (.error e, s') → (install update quiet x).run s = (.error e, s') := by
  rw [run_install, installQueue]
  refine ⟨fun s' hvisit => ?_, fun e s' hvisit => run_bind_error hvisit⟩
  obtain ⟨lines, hsay⟩ := run_say quiet allInstalled s'
  have hpending : pending ([] ++ [x]) (x :: [] ++ []) = [] := by simp [pending]
  refine ⟨lines, ?_⟩
  rw [run_bind_ok hvisit]
  simp only [hpending, installQueue]
  rw [run_bind_ok hsay]
  rfl

/-! ### Repository paths -/

theorem isFolder_blank_place (hx : x.Direct) : Tree.blank.isFolder x.path.place = false := by
  rw [Bool.eq_false_iff, ne_eq, Tree.isFolder_blank, Tree.not_isOuter_place hx]
  rintro (hplace | hplace)
  · exact x.parts_ne_nil (append_eq_nil_iff.mp hplace).2
  · cases hplace

theorem isInstalled_blank (hx : x.Direct) : Tree.blank.isInstalled x = false := by
  rw [Bool.eq_false_iff]
  intro h
  have hplace := ((Tree.pathExists_iff hx).mp h).2
  rw [Tree.occupied, isFolder_blank_place hx] at hplace
  cases hplace

theorem ensureFolder_blank (hx : x.Direct) (haddress : x.isAddress = false) (hroot : x.path.absolute = false) :
    ∃ t, Tree.blank.ensureFolder x.folder = .ok t ∧ t.Leads (Tree.origin x.path) x.path.parts ∧
      t.isFolder x.path.place = false := by
  have hparts := ModuleName.folder_parts haddress
  have horigin : Tree.origin x.folder = Tree.origin x.path := by
    rw [Tree.origin, Tree.origin, ModuleName.folder_absolute haddress hroot, hroot]
  have hup : up ∉ x.folder.parts := fun h => hx (dropLast_subset _ (hparts ▸ h))
  obtain ⟨t, hensure, hnew, hmade⟩ := Tree.ensureFolder_of_no_files (t := Tree.blank) rfl x.folder
  refine ⟨t, hensure, fun ps hps hne => ?_, ?_⟩
  · rw [← horigin]
    refine hmade hup ps ?_
    rw [hparts]
    obtain ⟨rest, hrest⟩ := hps
    have hrest' : rest ≠ [] := fun h => hne (by rw [← hrest, h, append_nil])
    rw [← hrest, dropLast_append_of_ne_nil hrest']
    exact prefix_append ps _
  · rw [Bool.eq_false_iff]
    intro hfolder
    rcases hnew _ hfolder with hblank | hway
    · rw [isFolder_blank_place hx] at hblank
      cases hblank
    · have hlength := Tree.length_of_mem_way hup hway
      have hpos := length_pos_iff.mpr x.parts_ne_nil
      rw [Path.place, length_append, horigin, hparts, length_dropLast] at hlength
      omega

theorem visit_repository (update quiet : Bool) (hx : x.Direct) (haddress : x.isAddress = false)
    (hroot : x.path.absolute = false) (hs : s.tree = Tree.blank) (hbody : s.remote.lookup x.url = some body) :
    ∃ s', (visit update quiet x).run s = (.ok (requiredBy (readLineEnds body)), s') ∧
      s'.tree.isInstalled x ∧ s'.tree.moduleText x = .ok (readLineEnds body) := by
  obtain ⟨t, hfolder, hleads, hplace⟩ := ensureFolder_blank hx haddress hroot
  have hnew : (s.tree.isInstalled x && !update) = false := by rw [hs, isInstalled_blank hx, Bool.false_and]
  obtain ⟨lines, hone⟩ := run_installOne update quiet hnew
  simp only [hs, hfolder, hbody, Tree.write_eq_ok hx x.parts_ne_nil hleads hplace body] at hone
  obtain ⟨lines', hvisit⟩ := run_visit hone
  obtain ⟨hexists, hread⟩ := Tree.read_of_file (t := { t with files := Tree.setFile x.path.place body t.files })
    hx hleads (by rw [Tree.file?, Tree.lookup_setFile, if_pos rfl])
  have htext : Tree.moduleText { t with files := Tree.setFile x.path.place body t.files } x =
      .ok (readLineEnds body) := by
    rw [Tree.moduleText, Tree.isInstalled, if_pos hexists, hread]
    rfl
  simp only [Tree.dependencies, htext] at hvisit
  exact ⟨_, hvisit, hexists, htext⟩

/-! ### Addresses -/

theorem addressFolder_ne (x : ModuleName) {part : Text} (h : part.length < 9) : x.addressFolder ≠ part := by
  rintro rfl
  rw [ModuleName.addressFolder_eq, length_append] at h
  exact absurd (Nat.lt_of_le_of_lt (Nat.le_add_right _ _) h) (by decide)

theorem not_mem_way_address (hx : x.isAddress) :
    [x.addressFolder] ∉ Tree.way (Tree.origin x.folder) x.folder.parts := by
  have hfirst : [x.addressFolder] ≠ ["EXTERNAL"] := fun h =>
    addressFolder_ne x (by decide) (singleton_inj.mp h)
  have henter : ∀ part, [x.addressFolder] ≠ Tree.enter ["EXTERNAL"] part := by
    intro part h
    unfold Tree.enter at h
    split at h
    · cases h
    · cases h
  rw [ModuleName.folder_of_isAddress hx]
  cases hstem : Path.tells (Path.ofText x).stem with
  | true =>
    rw [filter_cons_of_pos hstem, filter_nil]
    simp only [Tree.way, mem_cons, not_or]
    exact ⟨cons_ne_nil _ _, hfirst, henter _, not_mem_nil⟩
  | false =>
    rw [filter_cons_of_neg (by simp [hstem]), filter_nil]
    simp only [Tree.way, mem_cons, not_or]
    exact ⟨cons_ne_nil _ _, hfirst, not_mem_nil⟩

theorem isFolder_blank_address (x : ModuleName) : Tree.blank.isFolder [x.addressFolder] = false := by
  have hup : x.addressFolder ≠ up := addressFolder_ne x (by decide)
  have htop : x.addressFolder ≠ ['/'] := addressFolder_ne x (by decide)
  rw [Bool.eq_false_iff, ne_eq, Tree.isFolder_blank, Tree.isOuter]
  simp [top, hup, htop]

theorem ensureFolder_address (hx : x.isAddress) :
    ∃ t, Tree.blank.ensureFolder x.folder = .ok t ∧ t.isFolder [x.addressFolder] = false := by
  obtain ⟨t, hensure, hnew, -⟩ := Tree.ensureFolder_of_no_files (t := Tree.blank) rfl x.folder
  refine ⟨t, hensure, ?_⟩
  rw [Bool.eq_false_iff]
  intro hfolder
  rcases hnew _ hfolder with hblank | hway
  · rw [isFolder_blank_address] at hblank
    cases hblank
  · exact not_mem_way_address hx hway

theorem write_address (hx : x.isAddress) (ht : Tree.blank.Extends t) (hfiles : t.files = [])
    (hfolder : t.isFolder [x.addressFolder] = false) (body : Text) :
    t.isInstalled x = false ∧ t.write x.path body = .error .noSuchFile := by
  rw [Tree.isInstalled, ModuleName.path_of_isAddress hx]
  exact Tree.write_of_no_folder (ht.folder [] rfl) (addressFolder_ne x (by decide)) hfolder
    (by rw [Tree.file?, hfiles]; rfl) body

theorem visit_address (update quiet : Bool) (hx : x.isAddress) (hs : s.tree = Tree.blank)
    (hbody : s.remote.lookup x.url = some body) :
    ∃ s', (visit update quiet x).run s = (.error .noSuchFile, s') ∧ s'.tree.isInstalled x = false := by
  obtain ⟨t, hensure, hfolder⟩ := ensureFolder_address hx
  obtain ⟨ht, hfiles⟩ := Tree.ensureFolder_ok hensure
  obtain ⟨hblank, -⟩ := write_address hx (.refl _) rfl (isFolder_blank_address x) body
  obtain ⟨hinstalled, hwrite⟩ := write_address hx ht hfiles hfolder body
  have hnew : (s.tree.isInstalled x && !update) = false := by rw [hs, hblank, Bool.false_and]
  obtain ⟨lines, hone⟩ := run_installOne update quiet hnew
  simp only [hs, hensure, hbody, hwrite] at hone
  exact ⟨_, run_bind_error hone, hinstalled⟩

/-- A module that can be downloaded and requires nothing is installed in an empty store and read as it was
downloaded if it is a repository path. If it is an address the installation stops, and the module is not
installed. -/
theorem download_kept_unless_address (update quiet : Bool)
    (hx : x.isAddress ∨ x.Direct ∧ x.path.absolute = false) (hs : s.tree = Tree.blank)
    (hbody : s.remote.lookup x.url = some body) (hnone : requiredBy (readLineEnds body) = []) :
    ∃ r s', (install update quiet x).run s = (r, s') ∧
      (x.isAddress = false → r = .ok [x] ∧ s'.tree.isInstalled x ∧
        s'.tree.moduleText x = .ok (readLineEnds body)) ∧
      (x.isAddress → r = .error .noSuchFile ∧ s'.tree.isInstalled x = false) := by
  obtain ⟨hok, herror⟩ := run_install_of_visit update quiet x s
  cases haddress : x.isAddress with
  | true =>
    obtain ⟨s', hvisit, hinstalled⟩ := visit_address update quiet haddress hs hbody
    exact ⟨_, s', herror _ _ hvisit, fun h => (nomatch h), fun _ => ⟨rfl, hinstalled⟩⟩
  | false =>
    obtain ⟨hdirect, hroot⟩ := hx.resolve_left (by simp [haddress])
    obtain ⟨s', hvisit, hinstalled, htext⟩ := visit_repository update quiet hdirect haddress hroot hs hbody
    rw [hnone] at hvisit
    obtain ⟨lines, hrun⟩ := hok s' hvisit
    exact ⟨_, _, hrun, fun _ => ⟨rfl, hinstalled, htext⟩, fun h => (nomatch h)⟩

/-- An empty store, with a module under a repository path and one under an address to be downloaded. -/
def offers : State where
  tree := Tree.blank
  remote := [
    ("https://storage.googleapis.com/ee-sources/users/a/b/m", "exports.a = 1\r\n"),
    ("https://x.org/m.js", "exports.a = 1")]

theorem repository_kept_address_not :
    (∃ s', (install false false "users/a/b:m").run offers = (.ok ["users/a/b:m"], s') ∧
      s'.tree.moduleText "users/a/b:m" = .ok "exports.a = 1\n") ∧
    ∃ s', (install false false "https://x.org/m.js").run offers = (.error .noSuchFile, s') ∧
      s'.tree.isInstalled "https://x.org/m.js" = false := by
  have hbody : offers.remote.lookup (ModuleName.url "users/a/b:m") = some "exports.a = 1\r\n" := by
    decide +kernel
  have hbody' : offers.remote.lookup (ModuleName.url "https://x.org/m.js") = some "exports.a = 1" := by
    decide +kernel
  obtain ⟨r, s, hrun, hkept, -⟩ := download_kept_unless_address (x := "users/a/b:m") false false
    (.inr (by decide +kernel)) rfl hbody (by decide +kernel)
  obtain ⟨r', s', hrun', -, hstopped⟩ := download_kept_unless_address (x := "https://x.org/m.js") false
    false (.inl (by decide +kernel)) rfl hbody' (by decide +kernel)
  obtain ⟨rfl, -, htext⟩ := hkept (by decide +kernel)
  obtain ⟨rfl, hinstalled⟩ := hstopped (by decide +kernel)
  exact ⟨⟨s, hrun, htext⟩, s', hrun', hinstalled⟩

end Geoscript.Store
