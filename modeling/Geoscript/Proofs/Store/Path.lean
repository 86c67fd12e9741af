import Geoscript.Proofs.Text.Fields
import Geoscript.Store.Path

/-! Files of modules: that of a repository path lies in the folder that is made for it (`folder_parts`), that of an
address in one named after the file. -/

namespace Geoscript.Store
open List Text

namespace Path
variable {a b t part : Text} {c : Char}

/-! ### Reading a path -/

/-- Whether a piece of a path says something. -/
def tells (piece : Text) : Bool :=
  !piece.isEmpty && piece != ['.']

theorem parts_ofText (t : Text) : (ofText t).parts = (fields '/' t).filter tells := rfl

theorem tells_of_length (h : 1 < part.length) : tells part := by
  rw [tells, Bool.and_eq_true, Bool.not_eq_true', bne_iff_ne, isEmpty_eq_false_iff]
  constructor <;> rintro rfl <;> simp at h

theorem not_mem_of_mem_parts (h : part ∈ (ofText t).parts) : '/' ∉ part :=
  not_mem_of_mem_fields (mem_filter.mp h).1

theorem parts_ofText_append {front : List Text} (ha : fields '/' a = front ++ [part]) (hb : '/' ∉ b)
    (hlen : 1 < b.length) : (ofText (a ++ b)).parts = front.filter tells ++ [part ++ b] := by
  have htells : tells (part ++ b) := tells_of_length (by rw [length_append]; omega)
  rw [parts_ofText, fields_append_of_not_mem hb ha, filter_append, filter_cons_of_pos htells, filter_nil]

theorem absolute_ofText (t : Text) : (ofText t).absolute = (t.head? == some '/') := by
  cases t with
  | nil => rfl
  | cons c t =>
    by_cases hc : c = '/'
    · subst hc
      simp only [ofText, absolute, rootOf, takeWhile_cons, beq_self_eq_true, if_true, length_cons, head?_cons]
      split
      · next h => cases h
      · rfl
      · rfl
    · have hslash : (c == '/') = false := beq_eq_false_iff_ne.mpr hc
      simp [ofText, absolute, rootOf, hslash]

/-! ### The name of a path -/

theorem name_mem {p : Path} (h : p.parts ≠ []) : p.name ∈ p.parts := by
  rw [name, getLast?_eq_some_getLast h]
  exact getLast_mem h

theorem stem_subset_name (p : Path) : p.stem ⊆ p.name := by
  intro c hc
  have hdrop : ∀ c ∈ p.name.reverse.dropWhile (· != '.'), c ∈ p.name := fun c hc =>
    mem_reverse.mp ((dropWhile_sublist _).subset hc)
  simp only [stem] at hc
  split at hc
  · exact hc
  · next d before hbefore =>
    split at hc
    · exact hc
    · exact hdrop c (hbefore ▸ mem_cons_of_mem d (mem_reverse.mp hc))

theorem name_ofText_cons (hslash : c ≠ '/') (hdot : c ≠ '.') (t : Text) :
    (ofText (c :: t)).name ∈ (ofText (c :: t)).parts := by
  obtain ⟨first, rest, -, hfields⟩ := fields_cons_of_ne hslash t
  have hfirst : (c :: first) ∈ (ofText (c :: t)).parts := by
    rw [parts_ofText, hfields]
    exact mem_filter.mpr ⟨mem_cons_self, by simp [tells, hdot]⟩
  exact name_mem (ne_nil_of_mem hfirst)

end Path

namespace ModuleName
variable {x : ModuleName} {part : Text}

/-! ### The path of a module -/

theorem path_eq (h : isAddress x = false) :
    ∃ a, path x = Path.ofText (a ++ ".js") ∧ (slashed x = a ∨ slashed x = a ++ ".js") := by
  unfold path
  rw [h, if_neg (by decide)]
  split
  · next hjs =>
    obtain ⟨a, rfl⟩ := isSuffixOf_iff_suffix.mp hjs
    have hslashed : slashed (a ++ ".js") = slashed a ++ ".js" := by
      rw [slashed, map_append]
      rfl
    exact ⟨slashed a, by rw [hslashed], .inr hslashed⟩
  · exact ⟨slashed x, rfl, .inl rfl⟩

theorem name_mem_of_isAddress (h : isAddress x) : (Path.ofText x).name ∈ (Path.ofText x).parts := by
  obtain ⟨t, rfl⟩ := isPrefixOf_iff_prefix.mp h
  exact Path.name_ofText_cons (by decide) (by decide) ("ttp" ++ t)

theorem not_mem_stem (h : isAddress x) : '/' ∉ (Path.ofText x).stem := fun hmem =>
  Path.not_mem_of_mem_parts (name_mem_of_isAddress h) (Path.stem_subset_name _ hmem)

def addressFolder (x : ModuleName) : Text :=
  "EXTERNAL_" ++ (Path.ofText x).stem

theorem addressFolder_eq (x : ModuleName) : addressFolder x = "EXTERNAL_" ++ (Path.ofText x).stem := rfl

theorem path_of_isAddress (h : isAddress x) : path x = ⟨[], [addressFolder x, (Path.ofText x).name]⟩ := by
  have hname := name_mem_of_isAddress h
  have htells : Path.tells (Path.ofText x).name := (mem_filter.mp hname).2
  have hfolder : Path.tells (addressFolder x) := Path.tells_of_length <| by
    rw [addressFolder_eq, length_append]
    exact Nat.lt_add_right _ (by decide)
  have hslash : '/' ∉ addressFolder x := by
    rw [addressFolder_eq, mem_append, not_or]
    exact ⟨by decide, not_mem_stem h⟩
  have hpath : path x = Path.ofText (addressFolder x ++ '/' :: (Path.ofText x).name) := by
    rw [path, if_pos h, addressFolder_eq]
  have hparts : (path x).parts = [addressFolder x, (Path.ofText x).name] := by
    rw [hpath, Path.parts_ofText, fields_append_cons hslash,
      fields_of_not_mem (Path.not_mem_of_mem_parts hname), filter_cons_of_pos hfolder,
      filter_cons_of_pos htells, filter_nil]
  have hroot : (path x).root = [] := by
    rw [hpath]
    rfl
  rw [← hparts, ← hroot]

theorem folder_of_isAddress (h : isAddress x) :
    folder x = ⟨[], "EXTERNAL".toList :: [(Path.ofText x).stem].filter Path.tells⟩ := by
  have hparts : (folder x).parts = "EXTERNAL".toList :: [(Path.ofText x).stem].filter Path.tells := by
    have htext : "EXTERNAL/".toList ++ (Path.ofText x).stem = "EXTERNAL".toList ++ '/' :: (Path.ofText x).stem := rfl
    rw [folder, if_pos h, Path.parts_ofText, htext, fields_append_cons (by decide),
      fields_of_not_mem (not_mem_stem h), filter_cons_of_pos rfl]
  have hroot : (folder x).root = [] := by
    rw [folder, if_pos h]
    rfl
  rw [← hparts, ← hroot]

theorem parts_ne_nil (x : ModuleName) : (path x).parts ≠ [] := by
  cases hx : isAddress x with
  | true => simp [path_of_isAddress hx]
  | false =>
    obtain ⟨a, ha, -⟩ := path_eq hx
    rw [ha, Path.parts_ofText_append (dropLast_concat_getLast fields_ne_nil).symm (by decide) (by decide)]
    simp

/-- The folder that is made for a module that is not an address is the one that its file lies in. -/
theorem folder_parts (h : isAddress x = false) : (folder x).parts = (path x).parts.dropLast := by
  obtain ⟨a, hpath, hslashed⟩ := path_eq h
  obtain ⟨front, last, hfields⟩ : ∃ front last, fields '/' a = front ++ [last] :=
    ⟨_, _, (dropLast_concat_getLast fields_ne_nil).symm⟩
  have hfront : (fields '/' (slashed x)).dropLast = front := by
    rcases hslashed with hslashed | hslashed
    · rw [hslashed, hfields, dropLast_concat]
    · rw [hslashed, fields_append_of_not_mem (by decide) hfields, dropLast_concat]
  have hjoin : (fields '/' (join ['/'] front)).filter Path.tells = front.filter Path.tells := by
    by_cases hne : front = []
    · rw [hne]
      rfl
    · rw [fields_join hne fun t ht => not_mem_of_mem_fields (hfields ▸ mem_append_left _ ht)]
  rw [hpath, Path.parts_ofText_append hfields (by decide) (by decide), dropLast_concat, folder, h,
    if_neg (by decide), hfront, Path.parts_ofText, hjoin]

theorem folder_absolute (h : isAddress x = false) (hx : (path x).absolute = false) : (folder x).absolute = false := by
  obtain ⟨a, hpath, hslashed⟩ := path_eq h
  have hhead : (slashed x).head? ≠ some '/' := by
    rw [hpath, Path.absolute_ofText, beq_eq_false_iff_ne] at hx
    rcases hslashed with hslashed | hslashed
    · rw [hslashed]
      cases a <;> simp_all
    · rwa [hslashed]
  have hfolder : join ['/'] (fields '/' (slashed x)).dropLast <+: slashed x := by
    have := join_prefix_append ['/'] (fields '/' (slashed x)).dropLast [(fields '/' (slashed x)).getLast fields_ne_nil]
    rwa [dropLast_concat_getLast, join_fields] at this
  rw [folder, h, if_neg (by decide), Path.absolute_ofText, beq_eq_false_iff_ne]
  intro hslash
  obtain ⟨rest, hrest⟩ := head?_eq_some_iff.mp hslash
  rw [hrest] at hfolder
  obtain ⟨more, hmore⟩ := hfolder
  exact hhead (by rw [← hmore]; rfl)

theorem not_mem_of_mem_path (h : part ∈ (path x).parts) : '/' ∉ part := by
  unfold path at h
  split at h
  · exact Path.not_mem_of_mem_parts h
  · split at h <;> exact Path.not_mem_of_mem_parts h

end ModuleName

end Geoscript.Store
