import Geoscript.Proofs.Text.Weave

/-! Cutting at a text that shares no edge with the old and the new piece of a replacement can be done before or after
it (`cutAt?_replace`, `between?_replace`). -/

namespace Geoscript.Text
open List
variable {a b o old new t w piece : Text} {c d : Char}

/-- What stands in a text between the first opening and the first closing behind it. -/
def between? (opening : Text) (closing : Char) (t : Text) : Option Text :=
  (cutAt? opening t).bind fun cut => (cutAt? [closing] (cut.2.drop opening.length)).map (·.1)

/-! ### Cutting -/

theorem cutAt?_of_not_infix (h : ¬piece <:+: t) : cutAt? piece t = none := by
  induction t with
  | nil =>
    rw [cutAt?, if_neg]
    intro hpiece
    exact h (isEmpty_iff.mp hpiece ▸ nil_infix)
  | cons c t ih =>
    rw [infix_cons_iff, not_or] at h
    rw [cutAt?, if_neg (by rw [List.isPrefixOf_iff_prefix]; exact h.1), ih h.2]
    rfl

theorem cutAt?_singleton (hd : d ∉ a) : cutAt? [d] (a ++ d :: b) = some (a, d :: b) := by
  induction a with
  | nil => simp [cutAt?]
  | cons c a ih =>
    rw [mem_cons, not_or] at hd
    rw [cons_append, cutAt?, if_neg (by simp [hd.1]), ih hd.2]
    rfl

theorem cutAt?_singleton_cases (d : Char) (t : Text) :
    d ∉ t ∧ cutAt? [d] t = none ∨ ∃ a b, t = a ++ d :: b ∧ d ∉ a ∧ cutAt? [d] t = some (a, d :: b) := by
  by_cases hd : d ∈ t
  · obtain ⟨a, b, rfl, ha⟩ := eq_append_cons_of_mem hd
    exact .inr ⟨a, b, rfl, ha, cutAt?_singleton ha⟩
  · exact .inl ⟨hd, cutAt?_of_not_infix fun h => hd (h.subset mem_cons_self)⟩

theorem cutAt?_eq_some (h : cutAt? o t = some (a, b)) : t = a ++ b ∧ o <+: b := by
  induction t generalizing a b with
  | nil =>
    rw [cutAt?] at h
    split at h
    · next ho =>
      cases h
      exact ⟨rfl, isEmpty_iff.mp ho ▸ nil_prefix⟩
    · cases h
  | cons c t ih =>
    rw [cutAt?] at h
    split at h
    · next ho =>
      cases h
      exact ⟨rfl, isPrefixOf_iff_prefix.mp ho⟩
    · obtain ⟨⟨a', b'⟩, hcut, heq⟩ := Option.map_eq_some_iff.mp h
      cases heq
      obtain ⟨ht, ho⟩ := ih hcut
      exact ⟨by rw [ht]; rfl, ho⟩

theorem not_infix_of_cutAt? (ho : o ≠ []) (h : cutAt? o t = some (a, b)) : ¬o <:+: a := by
  induction t generalizing a b with
  | nil =>
    rw [cutAt?] at h
    split at h
    · next hempty => exact absurd (isEmpty_iff.mp hempty) ho
    · cases h
  | cons c t ih =>
    rw [cutAt?] at h
    split at h
    · cases h
      exact fun hnil => ho (infix_nil.mp hnil)
    · next hpre =>
      obtain ⟨⟨a', b'⟩, hcut, heq⟩ := Option.map_eq_some_iff.mp h
      cases heq
      rw [infix_cons_iff, not_or]
      refine ⟨fun hstart => hpre (List.isPrefixOf_iff_prefix.mpr ?_), ih hcut⟩
      rw [(cutAt?_eq_some hcut).1]
      exact hstart.trans (prefix_append _ _)

theorem cutAt?_isSome_iff : (cutAt? o t).isSome ↔ o <:+: t := by
  constructor
  · intro h
    obtain ⟨⟨a, b⟩, hcut⟩ := Option.isSome_iff_exists.mp h
    obtain ⟨rfl, rest, rfl⟩ := cutAt?_eq_some hcut
    exact ⟨a, rest, by rw [append_assoc]⟩
  · intro h
    induction t with
    | nil => simp [cutAt?, infix_nil.mp h]
    | cons c t ih =>
      rw [cutAt?]
      split
      · rfl
      · next hpre =>
        rw [List.isPrefixOf_iff_prefix] at hpre
        rw [Option.isSome_map]
        exact ih ((infix_cons_iff.mp h).resolve_left hpre)

theorem cutAt?_at_start (h : o <+: t) : cutAt? o t = some ([], t) := by
  cases t with
  | nil => simp [cutAt?, prefix_nil.mp h]
  | cons c t => rw [cutAt?, if_pos (List.isPrefixOf_iff_prefix.mpr h)]

theorem cutAt?_of_same_front (h : cutAt? o (a ++ (o ++ b)) = some (a, o ++ b)) (w : Text) :
    cutAt? o (a ++ (o ++ w)) = some (a, o ++ w) := by
  induction a with
  | nil => exact cutAt?_at_start (prefix_append o w)
  | cons c a ih =>
    rw [cons_append, cutAt?] at h
    split at h
    · cases h
    · next hpre =>
      obtain ⟨⟨a', b'⟩, hcut, heq⟩ := Option.map_eq_some_iff.mp h
      obtain ⟨ha, rfl⟩ := Prod.mk.inj heq
      obtain rfl := (cons.inj ha).2
      have hpre' : ¬o <+: c :: (a' ++ (o ++ w)) := by
        intro ho
        have hlen : o.length ≤ ((c :: a') ++ o).length := by
          rw [length_append]
          exact Nat.le_add_left _ _
        have hfront : o <+: (c :: a') ++ o := prefix_of_prefix_length_le ho ⟨w, by simp⟩ hlen
        exact hpre (List.isPrefixOf_iff_prefix.mpr (hfront.trans ⟨b, by simp⟩))
      rw [cons_append, cutAt?, if_neg (by rwa [List.isPrefixOf_iff_prefix]), ih hcut]
      rfl

theorem between?_eq_some (ho : o ≠ []) (h : between? o c t = some w) :
    ∃ a b, t = a ++ o ++ w ++ c :: b ∧ c ∉ w ∧ ¬o <:+: a := by
  obtain ⟨⟨a, rest⟩, hopen, h⟩ := Option.bind_eq_some_iff.mp h
  obtain ⟨⟨inner, closed⟩, hclose, rfl⟩ := Option.map_eq_some_iff.mp h
  have hfirst := not_infix_of_cutAt? ho hopen
  obtain ⟨rfl, rest, rfl⟩ := cutAt?_eq_some hopen
  rw [drop_left] at hclose
  rcases cutAt?_singleton_cases c rest with ⟨-, hnone⟩ | ⟨w, b, rfl, hw, hsome⟩
  · rw [hnone] at hclose
    cases hclose
  · rw [hsome] at hclose
    cases hclose
    exact ⟨a, b, by simp, hw, hfirst⟩

/-! ### Texts that share no edge -/

/-- A text does not occur in another one and does not overlap with it: it lacks the last character of the
other, has one that the other lacks, and ends in nothing that the other starts with. -/
structure Clear (o w : Text) : Prop where
  last : ∀ c ∈ w.getLast?, c ∉ o
  other : ∃ c ∈ o, c ∉ w
  edge : ∀ x, x ≠ [] → x <:+ o → ¬x <+: w

/-- The end of a text does not start another one that lacks the last character of the first, or has a first
character that the first lacks. -/
theorem not_edge (h : (∀ c ∈ o.getLast?, c ∉ w) ∨ ∀ c ∈ w.head?, c ∉ o) {x : Text} (hx : x ≠ []) (ho : x <:+ o) :
    ¬x <+: w := by
  intro hw
  rcases h with h | h
  · refine h (x.getLast hx) ?_ (hw.subset (getLast_mem hx))
    obtain ⟨front, rfl⟩ := ho
    rw [Option.mem_def, getLast?_append, getLast?_eq_some_getLast hx]
    rfl
  · refine h (x.head hx) ?_ (ho.subset (head_mem hx))
    obtain ⟨rest, rfl⟩ := hw
    rw [Option.mem_def, head?_append, head?_eq_some_head hx]
    rfl

theorem Clear.singleton (h : c ∉ w) : Clear [c] w where
  last d hd := by
    intro hmem
    rw [mem_singleton.mp hmem] at hd
    exact h (mem_of_getLast? hd)
  other := ⟨c, mem_cons_self, h⟩
  edge x hx hsuffix hpre := by
    obtain ⟨d, hd⟩ := exists_mem_of_ne_nil x hx
    rw [← mem_singleton.mp (hsuffix.subset hd)] at h
    exact h (hpre.subset hd)

theorem cutAt?_append (hlast : ∀ c ∈ w.getLast?, c ∉ o) (hother : ∃ c ∈ o, c ∉ w) (t : Text) :
    cutAt? o (w ++ t) = (cutAt? o t).map fun cut => (w ++ cut.1, cut.2) := by
  induction w with
  | nil => simp
  | cons d w ih =>
    obtain ⟨c, hc, hw⟩ := hother
    have hpre : ¬o <+: d :: (w ++ t) := by
      intro hpre
      rcases prefix_or_prefix_of_prefix hpre (prefix_append (d :: w) t) with hpre | hpre
      · exact hw (hpre.subset hc)
      · exact hlast _ (getLast?_eq_some_getLast (cons_ne_nil d w)) (hpre.subset (getLast_mem _))
    rw [mem_cons, not_or] at hw
    have hlast' : ∀ c ∈ w.getLast?, c ∉ o := by
      intro e he
      refine hlast e ?_
      rw [getLast?_cons, Option.mem_def.mp he]
      rfl
    rw [cons_append, cutAt?, if_neg (by rwa [List.isPrefixOf_iff_prefix]), ih hlast' ⟨c, hc, hw.2⟩, Option.map_map]
    rfl

/-! ### Replacing around a text -/

theorem replace_append_of_clear (hold : old ≠ []) (ho : Clear o old) (b : Text) :
    replace old new (o ++ b) = o ++ replace old new b := by
  have hself : ¬old <:+: o := fun h =>
    ho.last _ (getLast?_eq_some_getLast hold) (h.subset (getLast_mem hold))
  rw [replace_append_of_border hold fun x y hx _ hsuffix _ heq =>
    ho.edge x hx hsuffix (heq ▸ prefix_append x y), replace_of_not_occurs hold hself]

theorem prefix_of_prefix_replace (hold : old ≠ []) (hnew : new ≠ []) (ho : Clear o new)
    (h : o <+: replace old new t) : o <+: t := by
  obtain ⟨front, d, rfl⟩ : ∃ front d, new = front ++ [d] :=
    ⟨_, _, (dropLast_concat_getLast hnew).symm⟩
  rcases prefix_replace hold (ho.last d (by simp)) h with h | ⟨-, x, y, rfl, hy, hfront⟩
  · exact h
  · exact absurd (hfront.trans (prefix_append front [d])) (ho.edge y hy (suffix_append x y))

theorem cutAt?_replace (hold : old ≠ []) (hnew : new ≠ []) (ho : Clear o old) (hn : Clear o new) (t : Text) :
    cutAt? o (replace old new t) = (cutAt? o t).map fun cut => (replace old new cut.1, replace old new cut.2) := by
  induction t using replace_induction hold with
  | nil =>
    have hne : ¬o <:+: [] := fun h => by
      obtain ⟨c, hc, -⟩ := ho.other
      rw [infix_nil.mp h] at hc
      cases hc
    rw [replace_nil hold, cutAt?_of_not_infix hne]
    rfl
  | hit t ih =>
    rw [replace_append hold, cutAt?_append hn.last hn.other, cutAt?_append ho.last ho.other, ih, Option.map_map,
      Option.map_map]
    refine congrArg (Option.map · _) (funext fun cut => ?_)
    simp only [Function.comp, replace_append hold]
  | miss c t hmiss ih =>
    by_cases hpre : o <+: c :: t
    · obtain ⟨b, hb⟩ := hpre
      rw [← hb, replace_append_of_clear hold ho, cutAt?_at_start (prefix_append o b),
        cutAt?_at_start (prefix_append o _), Option.map_some, replace_nil hold,
        replace_append_of_clear hold ho]
    · have hpre' : ¬o <+: c :: replace old new t := fun h =>
        hpre (prefix_of_prefix_replace hold hnew hn (by rwa [replace_cons hold hmiss]))
      rw [replace_cons hold hmiss, cutAt?, if_neg (by rwa [List.isPrefixOf_iff_prefix]), cutAt?,
        if_neg (by rwa [List.isPrefixOf_iff_prefix]), ih, Option.map_map, Option.map_map]
      cases hcut : cutAt? o t with
      | none => rfl
      | some cut =>
        have hkept : ¬old <+: c :: cut.1 := fun h => by
          obtain ⟨ht, -⟩ := cutAt?_eq_some hcut
          exact hmiss (h.trans (by rw [ht]; exact prefix_append (c :: cut.1) cut.2))
        simp only [Option.map_some, Function.comp, replace_cons hold hkept]

theorem between?_replace (hold : old ≠ []) (hnew : new ≠ []) (ho : Clear o old) (hn : Clear o new)
    (hc : c ∉ old) (hc' : c ∉ new) (t : Text) :
    between? o c (replace old new t) = (between? o c t).map (replace old new) := by
  rw [between?, between?, cutAt?_replace hold hnew ho hn]
  cases hcut : cutAt? o t with
  | none => rfl
  | some cut =>
    obtain ⟨-, rest, hrest⟩ := cutAt?_eq_some hcut
    simp only [Option.map_some, Option.bind_some]
    rw [← hrest, replace_append_of_clear hold ho, drop_left, drop_left,
      cutAt?_replace hold hnew (.singleton hc) (.singleton hc'), Option.map_map, Option.map_map]
    rfl

end Geoscript.Text
