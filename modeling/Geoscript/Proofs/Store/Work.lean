import Geoscript.Proofs.Result
import Geoscript.Store.Install

/-! Work on the store, opened by the outcome of its first part. Installing only adds to a state (`Grows`), and every
part of an installation is `Growing`, whether it ends or stops. -/

namespace Geoscript.Store
open List

namespace Work
variable {α β : Type} {w : Work α} {f : α → Work β} {s s' : State}

/-! ### Outcomes -/

theorem run_bind_ok {a : α} (h : w.run s = (.ok a, s')) : (w >>= f).run s = (f a).run s' := by
  have h' : w s = (.ok a, s') := h
  show (ExceptT.bind w f) s = f a s'
  simp only [ExceptT.bind, ExceptT.mk, bind, StateT.bind, h']
  rfl

theorem run_bind_error {e : Problem} (h : w.run s = (.error e, s')) : (w >>= f).run s = (.error e, s') := by
  have h' : w s = (.error e, s') := h
  show (ExceptT.bind w f) s = (.error e, s')
  simp only [ExceptT.bind, ExceptT.mk, bind, StateT.bind, h']
  rfl

theorem bind_eq_ok {b : β} (h : (w >>= f).run s = (.ok b, s')) :
    ∃ a t, w.run s = (.ok a, t) ∧ (f a).run t = (.ok b, s') := by
  rcases hw : w.run s with ⟨r, t⟩
  cases r with
  | ok a => exact ⟨a, t, rfl, run_bind_ok hw ▸ h⟩
  | error e =>
    rw [run_bind_error hw] at h
    cases h

theorem run_pure (a : α) : (pure a : Work α).run s = (.ok a, s) := rfl

theorem run_get_bind (g : State → Work α) : (get >>= g).run s = (g s).run s := rfl

theorem run_lift (r : Except Problem α) : (liftM r : Work α).run s = (r, s) := rfl

theorem run_say_quiet (line : Text) : (say true line).run s = (.ok (), s) := rfl

theorem run_say_aloud (line : Text) :
    (say false line).run s = (.ok (), { s with printed := s.printed ++ [line] }) := rfl

theorem run_say (quiet : Bool) (line : Text) (s : State) :
    ∃ lines, (say quiet line).run s = (.ok (), { s with printed := s.printed ++ lines }) := by
  cases quiet with
  | true => exact ⟨[], by rw [run_say_quiet, append_nil]⟩
  | false => exact ⟨[line], run_say_aloud line⟩

theorem run_setTree_ok (t : Tree) : (setTree (.ok t)).run s = (.ok (), { s with tree := t }) := rfl

theorem run_setTree_error (e : Problem) : (setTree (.error e)).run s = (.error e, s) := rfl

end Work

/-! ### Trees -/

namespace Tree
variable {t t' : Tree}

/-- Every folder of `t` is a folder of `t'`, and every file is a file, perhaps with another text. -/
structure Extends (t t' : Tree) : Prop where
  folder : ∀ l, t.isFolder l → t'.isFolder l
  file : ∀ l, (t.file? l).isSome → (t'.file? l).isSome

theorem Extends.refl (t : Tree) : Extends t t := ⟨fun _ h => h, fun _ h => h⟩

theorem Extends.trans {t'' : Tree} (h : Extends t t') (h' : Extends t' t'') : Extends t t'' :=
  ⟨fun l hl => h'.folder l (h.folder l hl), fun l hl => h'.file l (h.file l hl)⟩

theorem Extends.follow (h : Extends t t') {parts : List Text} {l l' : Location}
    (hf : t.follow l parts = .ok l') : t'.follow l parts = .ok l' := by
  induction parts generalizing l with
  | nil => exact hf
  | cons part rest ih =>
    unfold Tree.follow at hf ⊢
    split at hf
    · next hl =>
      rw [if_pos (h.folder l hl)]
      exact ih hf
    · split at hf <;> cases hf

theorem Extends.pathExists (h : Extends t t') {p : Path} (hp : t.pathExists p) : t'.pathExists p := by
  unfold Tree.pathExists at hp ⊢
  split at hp
  · next l hl =>
    have hl' : t'.locate p = .ok l := h.follow hl
    rw [hl']
    simp only [occupied, Bool.or_eq_true] at hp ⊢
    exact hp.imp (h.file l) (h.folder l)
  · cases hp

theorem Extends.isInstalled (h : Extends t t') {x : ModuleName} (hx : t.isInstalled x) : t'.isInstalled x :=
  h.pathExists hx

theorem addFolder_files (t : Tree) (l : Location) : (t.addFolder l).files = t.files := by
  unfold addFolder
  split <;> rfl

theorem extends_addFolder (t : Tree) (l : Location) : Extends t (t.addFolder l) where
  folder k hk := by
    unfold addFolder
    split
    · exact hk
    · simp only [isFolder, contains_eq_mem, Bool.or_eq_true, mem_append, decide_eq_true_eq] at hk ⊢
      rcases hk with (hk | hk) | hk
      · exact .inl (.inl (.inl hk))
      · exact .inl (.inr hk)
      · exact .inr hk
  file k hk := by
    unfold file? at hk ⊢
    rw [addFolder_files]
    exact hk

theorem makeFolders_ok {l : Location} {parts : List Text} (h : t.makeFolders l parts = .ok t') :
    Extends t t' ∧ t'.files = t.files := by
  induction parts generalizing t l with
  | nil =>
    unfold makeFolders at h
    split at h
    · cases h
    · cases h
      exact ⟨extends_addFolder t l, addFolder_files t l⟩
  | cons part rest ih =>
    unfold makeFolders at h
    split at h
    · cases h
    · obtain ⟨hext, hfiles⟩ := ih h
      exact ⟨(extends_addFolder t l).trans hext, hfiles.trans (addFolder_files t l)⟩

theorem ensureFolder_ok {p : Path} (h : t.ensureFolder p = .ok t') : Extends t t' ∧ t'.files = t.files := by
  unfold ensureFolder at h
  split at h
  · cases h
    exact ⟨Extends.refl t, rfl⟩
  · exact makeFolders_ok h

theorem lookup_setFile (l : Location) (text : Text) (k : Location) (files : List (Location × Text)) :
    (setFile l text files).lookup k = if k = l then some text else files.lookup k := by
  induction files with
  | nil =>
    by_cases hk : k = l
    · simp [setFile, hk]
    · simp [setFile, lookup_cons, beq_eq_false_iff_ne.mpr hk, hk]
  | cons f rest ih =>
    obtain ⟨k', old⟩ := f
    by_cases hl : k' = l
    · by_cases hk : k = l
      · simp [setFile, hl, hk]
      · simp [setFile, lookup_cons, hl, beq_eq_false_iff_ne.mpr hk, hk]
    · by_cases hk' : k = k'
      · simp [setFile, hl, hk']
      · simp [setFile, lookup_cons, hl, beq_eq_false_iff_ne.mpr hk', ih]

theorem mem_setFile {l : Location} {text : Text} {f : Location × Text} {files : List (Location × Text)}
    (h : f ∈ setFile l text files) : f ∈ files ∨ f.2 = text := by
  induction files with
  | nil =>
    simp only [setFile, mem_singleton] at h
    exact .inr (by rw [h])
  | cons g rest ih =>
    unfold setFile at h
    split at h
    · rcases mem_cons.mp h with rfl | h
      · exact .inr rfl
      · exact .inl (mem_cons_of_mem _ h)
    · rcases mem_cons.mp h with rfl | h
      · exact .inl mem_cons_self
      · exact (ih h).imp_left (mem_cons_of_mem _)

theorem write_ok {p : Path} {text : Text} (h : t.write p text = .ok t') :
    ∃ l, t.locate p = .ok l ∧ t' = { t with files := setFile l text t.files } := by
  unfold write at h
  obtain ⟨folder, -, h⟩ := ok_of_bind h
  split at h
  · split at h <;> cases h
  · obtain ⟨l, hl, h⟩ := ok_of_bind h
    split at h
    · cases h
    · cases h
      exact ⟨l, hl, rfl⟩

theorem extends_write {p : Path} {text : Text} (h : t.write p text = .ok t') : Extends t t' := by
  obtain ⟨l, -, rfl⟩ := write_ok h
  refine ⟨fun _ hk => hk, fun k hk => ?_⟩
  simp only [file?, lookup_setFile] at hk ⊢
  split
  · rfl
  · exact hk

end Tree

/-! ### States -/

/-- The texts that may be read: those of the files and those that can be downloaded. -/
def State.texts (s : State) : List Text :=
  s.tree.files.map (·.2) ++ s.remote.map (·.2)

/-- What an installation may do to a state before its last line. -/
structure Grows (quiet : Bool) (s s' : State) : Prop where
  remote : s'.remote = s.remote
  texts : ∀ text ∈ s'.texts, text ∈ s.texts
  tree : s.tree.Extends s'.tree
  printed : ∃ lines, s'.printed = s.printed ++ lines ∧ allInstalled ∉ lines ∧
    (quiet → lines = [])

namespace Grows
variable {quiet : Bool} {s t u : State}

theorem refl (s : State) : Grows quiet s s :=
  ⟨rfl, fun _ h => h, .refl _, [], by simp, by simp, fun _ => rfl⟩

theorem trans (h : Grows quiet s t) (h' : Grows quiet t u) : Grows quiet s u where
  remote := h'.remote.trans h.remote
  texts text ht := h.texts text (h'.texts text ht)
  tree := h.tree.trans h'.tree
  printed := by
    obtain ⟨ls, hls, hn, hq⟩ := h.printed
    obtain ⟨ls', hls', hn', hq'⟩ := h'.printed
    refine ⟨ls ++ ls', by rw [hls', hls, append_assoc], ?_, fun q => by rw [hq q, hq' q]; rfl⟩
    rw [mem_append]
    exact fun h => h.elim hn hn'

theorem setTree {tree : Tree} (he : s.tree.Extends tree)
    (ht : ∀ f ∈ tree.files, f.2 ∈ s.texts) : Grows quiet s { s with tree } where
  remote := rfl
  texts text h := by
    rcases mem_append.mp h with h | h
    · obtain ⟨f, hf, rfl⟩ := mem_map.mp h
      exact ht f hf
    · exact mem_append_right _ h
  tree := he
  printed := ⟨[], by simp, by simp, fun _ => rfl⟩

end Grows

def Growing {α : Type} (quiet : Bool) (w : Work α) : Prop :=
  ∀ s, Grows quiet s (w.run s).2

namespace Growing
variable {α β : Type} {quiet : Bool}

theorem bind_at {w : Work α} {f : α → Work β} {s : State} (hw : Grows quiet s (w.run s).2)
    (hf : ∀ a, Growing quiet (f a)) : Grows quiet s ((w >>= f).run s).2 := by
  rcases hr : w.run s with ⟨r, t⟩
  rw [hr] at hw
  cases r with
  | ok a =>
    rw [Work.run_bind_ok hr]
    exact hw.trans (hf a t)
  | error e =>
    rw [Work.run_bind_error hr]
    exact hw

theorem bind {w : Work α} {f : α → Work β} (hw : Growing quiet w) (hf : ∀ a, Growing quiet (f a)) :
    Growing quiet (w >>= f) := fun s =>
  bind_at (hw s) hf

theorem get_bind {f : State → Work α} (hf : ∀ s, Grows quiet s ((f s).run s).2) :
    Growing quiet (get >>= f) := fun s => by
  rw [Work.run_get_bind]
  exact hf s

theorem throw (e : Problem) : Growing quiet (throw e : Work α) := fun s => .refl s

theorem lift (r : Except Problem α) : Growing quiet (liftM r : Work α) := fun s => .refl s

theorem say {line : Text} (hl : line ≠ allInstalled) : Growing quiet (Work.say quiet line) := by
  intro s
  cases quiet with
  | true =>
    rw [Work.run_say_quiet]
    exact .refl s
  | false =>
    rw [Work.run_say_aloud]
    exact ⟨rfl, fun _ h => h, .refl _, [line], rfl, by simpa using Ne.symm hl, by simp⟩

end Growing

theorem grows_setTree {quiet : Bool} {s : State} {r : Except Problem Tree}
    (h : ∀ tree, r = .ok tree → s.tree.Extends tree ∧ ∀ f ∈ tree.files, f.2 ∈ s.texts) :
    Grows quiet s ((Work.setTree r).run s).2 := by
  cases r with
  | error e => exact .refl s
  | ok tree =>
    obtain ⟨he, ht⟩ := h tree rfl
    exact .setTree he ht

end Geoscript.Store
