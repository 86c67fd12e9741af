import Geoscript.Proofs.Store.Path
import Geoscript.Proofs.Store.Work

/-! Places in the file tree. A path none of whose parts leads up leads to its own `place` (`locate_eq_ok_iff`), and
removing a folder takes away what the folder holds and nothing else (`isInstalled_removeFolder`,
`moduleText_removeFolder`). -/

namespace Geoscript.Store
open List

/-- Where the parts of a path lead if each of them is entered. -/
def Path.place (p : Path) : Location :=
  Tree.origin p ++ p.parts

/-- A name that leads to its file through folders only, one inside the other. -/
def ModuleName.Direct (x : ModuleName) : Prop :=
  up ∉ (ModuleName.path x).parts

instance (x : ModuleName) : Decidable (ModuleName.Direct x) :=
  inferInstanceAs (Decidable (up ∉ _))

namespace Tree
variable {t : Tree} {f k l : Location} {part : Text} {parts : List Text} {p : Path}

def isOuter (l : Location) : Bool :=
  (!l.isEmpty && l.all (· == up)) || l == top

theorem isFolder_eq (t : Tree) (l : Location) : t.isFolder l = (t.folders.contains l || isOuter l) := by
  rw [isFolder, isOuter, Bool.or_assoc]

theorem not_isOuter_append (hup : part ≠ up) (hroot : '/' ∉ part) (l : Location) : isOuter (l ++ [part]) = false := by
  have htop : l ++ [part] ≠ top := by
    intro h
    have hpart : part ∈ top := h ▸ mem_append_right l mem_cons_self
    rw [mem_singleton.mp hpart] at hroot
    exact hroot mem_cons_self
  simp [isOuter, hup, htop]

theorem isFolder_addFolder : (t.addFolder l).isFolder k ↔ t.isFolder k ∨ k = l := by
  unfold addFolder
  split
  · next hl => exact ⟨.inl, fun h => h.elim id fun h => h ▸ hl⟩
  · simp only [isFolder_eq, contains_eq_mem, mem_append, mem_singleton, Bool.or_eq_true, decide_eq_true_eq]
    exact or_right_comm

/-- The tree of a store that nothing was ever installed in. -/
def blank : Tree := ⟨[], [[]]⟩

theorem isFolder_blank : blank.isFolder k ↔ k = [] ∨ isOuter k := by
  rw [isFolder_eq, Bool.or_eq_true, blank]
  simp

/-! ### Following a path -/

/-- All places on the way along the parts, but for the last one, are folders. -/
def Leads (t : Tree) (l : Location) (parts : List Text) : Prop :=
  ∀ ps, ps <+: parts → ps ≠ parts → t.isFolder (l ++ ps)

theorem leads_nil : t.Leads l [] := fun _ h hne => absurd (prefix_nil.mp h) hne

theorem leads_cons_iff : t.Leads l (part :: parts) ↔ t.isFolder l ∧ t.Leads (l ++ [part]) parts := by
  constructor
  · intro h
    refine ⟨by simpa using h [] nil_prefix (cons_ne_nil _ _).symm, fun ps hps hne => ?_⟩
    have := h (part :: ps) (cons_prefix_cons.mpr ⟨rfl, hps⟩) (by simpa using hne)
    rwa [append_assoc, singleton_append]
  · rintro ⟨hl, h⟩ ps hps hne
    rcases prefix_cons_iff.mp hps with rfl | ⟨qs, rfl, hqs⟩
    · simpa using hl
    · have := h qs hqs (by simpa using hne)
      rwa [append_assoc, singleton_append] at this

theorem follow_eq_ok_iff (hup : up ∉ parts) : t.follow l parts = .ok k ↔ k = l ++ parts ∧ t.Leads l parts := by
  induction parts generalizing l with
  | nil =>
    rw [follow, Except.ok.injEq, append_nil]
    exact ⟨fun h => ⟨h.symm, leads_nil⟩, fun h => h.1.symm⟩
  | cons part parts ih =>
    rw [mem_cons, not_or] at hup
    rw [follow, leads_cons_iff]
    by_cases hl : t.isFolder l
    · rw [if_pos hl, enter, if_neg (Ne.symm hup.1), ih hup.2]
      simp [hl]
    · rw [if_neg hl]
      constructor
      · intro h
        split at h <;> cases h
      · intro h
        exact absurd h.2.1 hl

theorem locate_eq_ok_iff (hup : up ∉ p.parts) : t.locate p = .ok k ↔ k = p.place ∧ t.Leads (origin p) p.parts :=
  follow_eq_ok_iff hup

theorem pathExists_iff (hup : up ∉ p.parts) : t.pathExists p ↔ t.Leads (origin p) p.parts ∧ t.occupied p.place := by
  unfold pathExists
  split
  · next l hl =>
    obtain ⟨rfl, hleads⟩ := (locate_eq_ok_iff hup).mp hl
    exact ⟨fun h => ⟨hleads, h⟩, fun h => h.2⟩
  · next e he =>
    refine ⟨fun h => (nomatch h), fun h => ?_⟩
    rw [(locate_eq_ok_iff hup).mpr ⟨rfl, h.1⟩] at he
    cases he

theorem locate_parent (hup : up ∉ p.parts) (h : t.Leads (origin p) p.parts) :
    t.locate p.parent = .ok p.parent.place := by
  have hfront : p.parts.dropLast <+: p.parts := dropLast_prefix _
  refine (locate_eq_ok_iff fun hmem => hup (hfront.subset hmem)).mpr ⟨rfl, fun ps hps hne => ?_⟩
  refine h ps (hps.trans hfront) fun heq => ?_
  exact hne (hps.eq_of_length_le (by rw [heq]; exact hfront.length_le))

/-! ### What a folder holds -/

theorem takeWhile_up_append (h : (l ++ [part]).all (· == up) = false) :
    (l ++ [part]).takeWhile (· == up) = l.takeWhile (· == up) := by
  induction l with
  | nil => simpa [takeWhile_cons] using h
  | cons q l ih =>
    rw [cons_append, takeWhile_cons, takeWhile_cons]
    by_cases hq : (q == up)
    · rw [if_pos hq, if_pos hq, ih (by simpa [hq] using h)]
    · rw [if_neg hq, if_neg hq]

theorem isPrefixOf_top_append (h : l ++ [part] ≠ top) : top.isPrefixOf (l ++ [part]) = top.isPrefixOf l := by
  cases l with
  | nil =>
    have hpart : part ≠ ['/'] := fun hpart => h (by rw [hpart]; rfl)
    simp [top, isPrefixOf, Ne.symm hpart]
  | cons q l => rfl

theorem holds_append (h : isOuter (l ++ [part]) = false) (hl : holds f l) : holds f (l ++ [part]) := by
  rw [isOuter, Bool.or_eq_false_iff, beq_eq_false_iff_ne] at h
  obtain ⟨hnot, hroot⟩ := h
  unfold holds at hl ⊢
  by_cases htop : (f == top)
  · rw [if_pos htop]
  · rw [if_neg htop] at hl ⊢
    split
    · next hall =>
      rw [if_pos hall] at hl
      rw [isPrefixOf_top_append hroot, takeWhile_up_append (by simpa using hnot)]
      exact hl
    · next hall =>
      rw [if_neg hall, isPrefixOf_iff_prefix] at hl
      rw [List.isPrefixOf_iff_prefix]
      exact hl.trans (prefix_append l [part])

theorem file?_removeFolder (t : Tree) (f k : Location) :
    (t.removeFolder f).file? k = if holds f k then none else t.file? k := by
  unfold file? removeFolder
  induction t.files with
  | nil => simp
  | cons e files ih =>
    obtain ⟨l, text⟩ := e
    by_cases hkl : k = l
    · subst hkl
      by_cases hk : holds f k
      · simp only [hk, if_true] at ih
        simp [hk, ih]
      · simp [hk]
    · have hne : (k == l) = false := beq_eq_false_iff_ne.mpr hkl
      by_cases hl : holds f l
      · simp [hl, lookup_cons, hne, ih]
      · simp [hl, lookup_cons, hne, ih]

theorem isFolder_removeFolder (t : Tree) (f k : Location) :
    (t.removeFolder f).isFolder k = (t.isFolder k && !holds f k || isOuter k) := by
  rw [isFolder_eq, isFolder_eq, removeFolder]
  cases hk : isOuter k <;> cases hf : holds f k <;> simp [hf]

/-! ### Modules after a folder is removed -/

theorem holds_append_parts (hup : up ∉ parts) (hroot : ∀ part ∈ parts, '/' ∉ part) (hl : holds f l) :
    holds f (l ++ parts) := by
  induction parts generalizing l with
  | nil => rwa [append_nil]
  | cons part parts ih =>
    rw [mem_cons, not_or] at hup
    rw [forall_mem_cons] at hroot
    rw [← singleton_append, ← append_assoc]
    exact ih hup.2 hroot.2 (holds_append (not_isOuter_append (Ne.symm hup.1) hroot.1 l) hl)

variable {y : ModuleName}

theorem not_isOuter_place (hy : y.Direct) : isOuter y.path.place = false := by
  have hlast := getLast_mem y.parts_ne_nil
  rw [Path.place, ← dropLast_concat_getLast y.parts_ne_nil, ← append_assoc]
  exact not_isOuter_append (fun h => hy (h ▸ hlast)) (ModuleName.not_mem_of_mem_path hlast) _

theorem not_holds_append (hy : y.Direct) (hf : holds f y.path.place = false) {parts : List Text}
    (h : parts <+: y.path.parts) : holds f (origin y.path ++ parts) = false := by
  obtain ⟨rest, hrest⟩ := h
  have hmem : ∀ part ∈ rest, part ∈ y.path.parts := fun part hpart =>
    hrest ▸ mem_append_right parts hpart
  rw [Bool.eq_false_iff]
  intro hheld
  have := holds_append_parts (fun hup => hy (hmem up hup))
    (fun part hpart => ModuleName.not_mem_of_mem_path (hmem part hpart)) hheld
  rw [append_assoc, hrest] at this
  exact Bool.false_ne_true (hf.symm.trans this)

theorem leads_removeFolder (hy : y.Direct) (hf : holds f y.path.place = false)
    (h : t.Leads (origin y.path) y.path.parts) : (t.removeFolder f).Leads (origin y.path) y.path.parts := by
  intro parts hparts hne
  rw [isFolder_removeFolder, h parts hparts hne, not_holds_append hy hf hparts]
  rfl

theorem occupied_removeFolder (hk : isOuter k = false) :
    (t.removeFolder f).occupied k = (t.occupied k && !holds f k) := by
  rw [occupied, occupied, file?_removeFolder, isFolder_removeFolder, hk, Bool.or_false]
  cases holds f k <;> simp

theorem isInstalled_removeFolder (hy : y.Direct) (h : t.isInstalled y) :
    (t.removeFolder f).isInstalled y = !holds f y.path.place := by
  obtain ⟨hleads, hplace⟩ := (pathExists_iff hy).mp h
  have hplace' := occupied_removeFolder (t := t) (f := f) (not_isOuter_place hy)
  rw [hplace, Bool.true_and] at hplace'
  cases hf : holds f y.path.place with
  | false =>
    refine (pathExists_iff hy).mpr ⟨leads_removeFolder hy hf hleads, ?_⟩
    rw [hplace', hf, Bool.not_false]
  | true =>
    rw [Bool.not_true, Bool.eq_false_iff]
    intro hinstalled
    rw [((pathExists_iff hy).mp hinstalled).2, hf] at hplace'
    cases hplace'

theorem moduleText_removeFolder (hy : y.Direct) (h : t.isInstalled y)
    (hf : holds f y.path.place = false) : (t.removeFolder f).moduleText y = t.moduleText y := by
  obtain ⟨hleads, -⟩ := (pathExists_iff hy).mp h
  have hinstalled := isInstalled_removeFolder (f := f) hy h
  rw [hf, Bool.not_false] at hinstalled
  have hread : (t.removeFolder f).read y.path = t.read y.path := by
    rw [read, read, (locate_eq_ok_iff hy).mpr ⟨rfl, hleads⟩,
      (locate_eq_ok_iff hy).mpr ⟨rfl, leads_removeFolder hy hf hleads⟩]
    simp only [bind, Except.bind]
    rw [file?_removeFolder, isFolder_removeFolder, not_isOuter_place hy, hf]
    simp
  rw [moduleText, moduleText, if_pos h, if_pos hinstalled, hread]

end Tree

end Geoscript.Store
