import Geoscript.Proofs.Store.Place
import Mathlib.Data.List.Induction

/-! In a grounded tree every file and every folder lies in a folder that is there. Trees are grounded from the start
(`grounded_ofFiles`) and stay so. -/

namespace Geoscript.Store
open List

namespace Tree
variable {t t' : Tree} {f k l : Location} {part text : Text} {parts : List Text} {p : Path}

def Grounded (t : Tree) : Prop :=
  ∀ l, t.occupied l → t.isFolder (above l)

/-! ### The location above -/

theorem isFolder_of_isOuter (h : isOuter l) : t.isFolder l := by
  rw [isFolder_eq, h, Bool.or_true]

theorem isOuter_append_up (h : l.all (· == up)) : isOuter (l ++ [up]) := by
  simp [isOuter, all_append, h]

theorem isOuter_above (h : isOuter l) : isOuter (above l) := by
  rw [isOuter, Bool.or_eq_true, Bool.and_eq_true] at h
  unfold above
  split
  · rfl
  · next htop =>
    obtain ⟨-, hall⟩ := h.resolve_right htop
    rw [if_pos hall]
    exact isOuter_append_up hall

theorem above_append (h : isOuter (l ++ [part]) = false) : above (l ++ [part]) = l := by
  rw [isOuter, Bool.or_eq_false_iff] at h
  have hall : (l ++ [part]).all (· == up) = false := by simpa using h.1
  rw [above, h.2, hall, if_neg Bool.false_ne_true, if_neg Bool.false_ne_true, dropLast_concat]

theorem isFolder_above_append (hl : t.isFolder l) (part : Text) : t.isFolder (above (l ++ [part])) := by
  cases houter : isOuter (l ++ [part]) with
  | true => exact isFolder_of_isOuter (isOuter_above houter)
  | false => rwa [above_append houter]

theorem occupied_of_isFolder (h : t.isFolder l) : t.occupied l := by
  rw [occupied, h, Bool.or_true]

theorem isFolder_above_enter (h : t.Grounded) (hl : t.isFolder l) (part : Text) :
    t.isFolder (above (enter l part)) := by
  unfold enter
  split
  · exact h _ (occupied_of_isFolder (h l (occupied_of_isFolder hl)))
  · exact isFolder_above_append hl part

theorem isFolder_above_origin (t : Tree) (p : Path) : t.isFolder (above (origin p)) := by
  unfold origin
  split <;> exact isFolder_of_isOuter rfl

/-! ### What keeps a tree grounded -/

section Kept
variable (h : t.Grounded)
include h

theorem Grounded.extend (hfolder : ∀ l, t.isFolder l → t'.isFolder l)
    (hnew : ∀ l, t'.occupied l → t.occupied l ∨ t'.isFolder (above l)) : t'.Grounded := by
  intro l hl
  rcases hnew l hl with hold | habove
  · exact hfolder _ (h l hold)
  · exact habove

theorem Grounded.addFolder (hl : t.isFolder (above l)) : (t.addFolder l).Grounded := by
  have hext := extends_addFolder t l
  refine h.extend hext.folder fun k hk => ?_
  rw [occupied, Bool.or_eq_true, file?, addFolder_files, isFolder_addFolder] at hk
  rw [occupied, Bool.or_eq_true]
  rcases hk with hfile | hfolder | rfl
  · exact .inl (.inl hfile)
  · exact .inl (.inr hfolder)
  · exact .inr (hext.folder _ hl)

theorem Grounded.makeFolders (hl : t.isFolder (above l))
    (hmake : t.makeFolders l parts = .ok t') : t'.Grounded := by
  induction parts generalizing t l with
  | nil =>
    unfold Tree.makeFolders at hmake
    split at hmake
    · cases hmake
    · cases hmake
      exact h.addFolder hl
  | cons part parts ih =>
    unfold Tree.makeFolders at hmake
    split at hmake
    · cases hmake
    · have hadd := h.addFolder hl
      exact ih hadd (isFolder_above_enter hadd (isFolder_addFolder.mpr (.inr rfl)) part) hmake

theorem Grounded.ensureFolder (hensure : t.ensureFolder p = .ok t') : t'.Grounded := by
  unfold Tree.ensureFolder at hensure
  split at hensure
  · cases hensure
    exact h
  · exact h.makeFolders (isFolder_above_origin t p) hensure

theorem isFolder_above_follow (hl : t.isFolder (above l))
    (hfollow : t.follow l parts = .ok k) : t.isFolder (above k) := by
  induction parts generalizing l with
  | nil =>
    cases hfollow
    exact hl
  | cons part parts ih =>
    unfold follow at hfollow
    split at hfollow
    · next hfolder => exact ih (isFolder_above_enter h hfolder part) hfollow
    · split at hfollow <;> cases hfollow

theorem Grounded.setFile (hl : t.isFolder (above l)) (text : Text) :
    Grounded { t with files := setFile l text t.files } := by
  refine h.extend (fun k hk => hk) fun k hk => ?_
  rw [occupied, Bool.or_eq_true, file?, lookup_setFile] at hk
  by_cases heq : k = l
  · exact .inr (heq ▸ hl)
  · rw [if_neg heq] at hk
    exact .inl (by rw [occupied, Bool.or_eq_true]; exact hk)

theorem Grounded.write (hwrite : t.write p text = .ok t') : t'.Grounded := by
  obtain ⟨l, hl, rfl⟩ := write_ok hwrite
  exact h.setFile (isFolder_above_follow h (isFolder_above_origin t p) hl) text

theorem Grounded.removeFolder (f : Location) : (t.removeFolder f).Grounded := by
  intro k hk
  cases houter : isOuter k with
  | true => exact isFolder_of_isOuter (isOuter_above houter)
  | false =>
    rw [occupied_removeFolder houter, Bool.and_eq_true, Bool.not_eq_true'] at hk
    obtain ⟨hoccupied, hheld⟩ := hk
    induction k using reverseRecOn with
    | nil => exact isFolder_of_isOuter rfl
    | append_singleton l part =>
      have hfolder := h _ hoccupied
      rw [above_append houter] at hfolder ⊢
      have hl : holds f l = false := Bool.eq_false_iff.mpr fun hl =>
        Bool.false_ne_true (hheld.symm.trans (holds_append houter hl))
      rw [isFolder_removeFolder, hfolder, hl]
      rfl

end Kept

/-! ### Trees of files -/

theorem foldersAbove_append (l : Location) (part : Text) : foldersAbove (l ++ [part]) = foldersAbove l ++ [l] := by
  rw [foldersAbove, length_append, length_singleton, range_succ, map_append]
  refine congrArg₂ (· ++ ·) (map_congr_left fun n hn => ?_) (by simp)
  exact take_append_of_le_length (Nat.le_of_lt (mem_range.mp hn))

theorem grounded_foldersAbove (h : t.Grounded) (l : Location) : Grounded ((foldersAbove l).foldl Tree.addFolder t) ∧
      ((foldersAbove l).foldl Tree.addFolder t).files = t.files ∧
      ((foldersAbove l).foldl Tree.addFolder t).isFolder (above l) := by
  induction l using reverseRecOn with
  | nil => exact ⟨h, rfl, isFolder_of_isOuter rfl⟩
  | append_singleton l part ih =>
    obtain ⟨hground, hfiles, habove⟩ := ih
    rw [foldersAbove_append, foldl_append, foldl_cons, foldl_nil]
    exact ⟨hground.addFolder habove, by rw [addFolder_files, hfiles],
      isFolder_above_append (isFolder_addFolder.mpr (.inr rfl)) part⟩

theorem grounded_blank : blank.Grounded := by
  intro l hl
  have hfolder : blank.isFolder l := by simpa [occupied, file?, blank] using hl
  rcases isFolder_blank.mp hfolder with rfl | houter
  · exact isFolder_of_isOuter rfl
  · exact isFolder_of_isOuter (isOuter_above houter)

theorem grounded_ofFiles (files : List (Text × Text)) : (ofFiles files).Grounded := by
  have hblank : Grounded ⟨[], [[]]⟩ := grounded_blank
  unfold ofFiles
  generalize (⟨[], [[]]⟩ : Tree) = t at hblank ⊢
  induction files generalizing t with
  | nil => exact hblank
  | cons e files ih =>
    obtain ⟨hground, hfiles, habove⟩ := grounded_foldersAbove hblank (Path.ofText e.1).parts
    have hfile := hground.setFile habove e.2
    rw [hfiles] at hfile
    exact ih _ hfile

/-! ### Places of modules -/

theorem Grounded.leads (h : t.Grounded) (hup : up ∉ parts) (hroot : ∀ part ∈ parts, '/' ∉ part)
    (hplace : t.occupied (l ++ parts)) : t.Leads l parts := by
  induction parts generalizing l with
  | nil => exact leads_nil
  | cons part parts ih =>
    rw [mem_cons, not_or] at hup
    rw [forall_mem_cons] at hroot
    rw [← singleton_append, ← append_assoc] at hplace
    have hleads := ih hup.2 hroot.2 hplace
    have hpart : t.occupied (l ++ [part]) := by
      cases parts with
      | nil => rwa [append_nil] at hplace
      | cons next parts => exact occupied_of_isFolder (leads_cons_iff.mp hleads).1
    have hfolder := h _ hpart
    rw [above_append (not_isOuter_append (Ne.symm hup.1) hroot.1 l)] at hfolder
    exact leads_cons_iff.mpr ⟨hfolder, hleads⟩

theorem Grounded.isInstalled (h : t.Grounded) {x : ModuleName} (hx : x.Direct)
    (hplace : t.occupied x.path.place) : t.isInstalled x :=
  (pathExists_iff hx).mpr ⟨h.leads hx (fun _ => ModuleName.not_mem_of_mem_path) hplace, hplace⟩

end Tree

end Geoscript.Store
