import Geoscript.Text.Basic

/-! The pieces of a text between the occurrences of one character (`join_fields`, `fields_join`). -/

namespace Geoscript.Text
open List
variable {sep c : Char} {t a b piece : Text}

theorem fields_cons_sep (h : c = sep) (t : Text) : fields sep (c :: t) = [] :: fields sep t :=
  if_pos h

theorem fields_cons_other {rest : List Text} (h : c ≠ sep) (ht : fields sep t = piece :: rest) :
    fields sep (c :: t) = (c :: piece) :: rest :=
  (if_neg h).trans (by rw [ht])

theorem fields_ne_nil : fields sep t ≠ [] := by
  induction t with
  | nil => exact cons_ne_nil _ _
  | cons d t ih =>
    by_cases hd : d = sep
    · rw [fields_cons_sep hd]
      exact cons_ne_nil _ _
    · obtain ⟨first, rest, hfields⟩ := exists_cons_of_ne_nil ih
      rw [fields_cons_other hd hfields]
      exact cons_ne_nil _ _

theorem fields_cons_of_ne (h : c ≠ sep) (t : Text) :
    ∃ first rest, fields sep t = first :: rest ∧ fields sep (c :: t) = (c :: first) :: rest := by
  obtain ⟨first, rest, hfields⟩ := exists_cons_of_ne_nil (@fields_ne_nil sep t)
  exact ⟨first, rest, hfields, fields_cons_other h hfields⟩

theorem fields_of_mem (h : sep ∈ t) : ∃ x y rest, fields sep t = x :: y :: rest := by
  induction t with
  | nil => cases h
  | cons ch t ih =>
    by_cases hch : ch = sep
    · obtain ⟨y, rest, hrest⟩ := exists_cons_of_ne_nil (@fields_ne_nil sep t)
      exact ⟨[], y, rest, by rw [fields_cons_sep hch, hrest]⟩
    · obtain ⟨x, y, rest, hfields⟩ := ih ((mem_cons.mp h).resolve_left (Ne.symm hch))
      exact ⟨ch :: x, y, rest, fields_cons_other hch hfields⟩

theorem mem_of_mem_fields (h : piece ∈ fields sep t) (hc : c ∈ piece) : c ∈ t := by
  induction t generalizing piece with
  | nil =>
    obtain rfl := mem_singleton.mp h
    exact hc
  | cons d t ih =>
    by_cases hd : d = sep
    · rw [fields_cons_sep hd] at h
      rcases mem_cons.mp h with rfl | h
      · cases hc
      · exact mem_cons_of_mem d (ih h hc)
    · obtain ⟨first, rest, hfields, hcons⟩ := fields_cons_of_ne hd t
      rw [hcons] at h
      rcases mem_cons.mp h with rfl | h
      · rcases mem_cons.mp hc with rfl | hc
        · exact mem_cons_self
        · exact mem_cons_of_mem d (ih (by rw [hfields]; exact mem_cons_self) hc)
      · exact mem_cons_of_mem d (ih (by rw [hfields]; exact mem_cons_of_mem first h) hc)

theorem not_mem_of_mem_fields (h : piece ∈ fields sep t) : sep ∉ piece := by
  induction t generalizing piece with
  | nil =>
    obtain rfl := mem_singleton.mp h
    exact not_mem_nil
  | cons d t ih =>
    by_cases hd : d = sep
    · rw [fields_cons_sep hd] at h
      rcases mem_cons.mp h with rfl | h
      · exact not_mem_nil
      · exact ih h
    · obtain ⟨first, rest, hfields, hcons⟩ := fields_cons_of_ne hd t
      rw [hcons] at h
      rcases mem_cons.mp h with rfl | h
      · rw [mem_cons, not_or]
        exact ⟨Ne.symm hd, ih (by rw [hfields]; exact mem_cons_self)⟩
      · exact ih (by rw [hfields]; exact mem_cons_of_mem first h)

theorem fields_of_not_mem (h : sep ∉ t) : fields sep t = [t] := by
  induction t with
  | nil => rfl
  | cons d t ih =>
    rw [mem_cons, not_or] at h
    exact fields_cons_other (Ne.symm h.1) (ih h.2)

theorem fields_append_cons (h : sep ∉ a) (b : Text) : fields sep (a ++ sep :: b) = a :: fields sep b := by
  induction a with
  | nil => exact fields_cons_sep rfl b
  | cons d a ih =>
    rw [mem_cons, not_or] at h
    exact fields_cons_other (Ne.symm h.1) (ih h.2)

theorem fields_append_sep (a b : Text) : fields sep (a ++ sep :: b) = fields sep a ++ fields sep b := by
  induction a with
  | nil => exact fields_append_cons not_mem_nil b
  | cons d a ih =>
    by_cases hd : d = sep
    · rw [cons_append, fields_cons_sep hd, ih, fields_cons_sep hd]
      rfl
    · obtain ⟨first, rest, hfields, hcons⟩ := fields_cons_of_ne hd a
      rw [hfields] at ih
      rw [cons_append, fields_cons_other hd ih, hcons]
      rfl

theorem fields_append_of_not_mem (hb : sep ∉ b) {front : List Text} (ha : fields sep a = front ++ [piece]) :
    fields sep (a ++ b) = front ++ [piece ++ b] := by
  induction a generalizing front piece with
  | nil =>
    cases front with
    | nil =>
      obtain rfl := singleton_inj.mp ha
      exact fields_of_not_mem hb
    | cons f front => exact absurd (congrArg length ha) (by simp [show fields sep [] = [[]] from rfl])
  | cons d a ih =>
    by_cases hd : d = sep
    · rw [fields_cons_sep hd] at ha
      rw [cons_append, fields_cons_sep hd]
      cases front with
      | nil => exact absurd (cons.inj ha).2 fields_ne_nil
      | cons f front =>
        rw [cons_append, cons.injEq] at ha
        rw [ih ha.2, ← ha.1]
        rfl
    · obtain ⟨first, rest, hfields, hcons⟩ := fields_cons_of_ne hd a
      rw [hcons] at ha
      cases front with
      | nil =>
        rw [nil_append, cons.injEq] at ha
        obtain ⟨rfl, rfl⟩ := ha
        exact fields_cons_other hd (@ih first [] hfields)
      | cons f front =>
        rw [cons_append, cons.injEq] at ha
        obtain ⟨rfl, rfl⟩ := ha
        exact fields_cons_other hd (@ih piece (first :: front) hfields)

theorem fields_append_left {rest : List Text} (ha : sep ∉ a) (hb : fields sep b = piece :: rest) :
    fields sep (a ++ b) = (a ++ piece) :: rest := by
  induction a with
  | nil => exact hb
  | cons d a ih =>
    rw [mem_cons, not_or] at ha
    exact fields_cons_other (Ne.symm ha.1) (ih ha.2)

theorem fields_without {drop : Char → Bool} (h : drop sep = false) (t : Text) :
    fields sep (without drop t) = (fields sep t).map (without drop) := by
  induction t with
  | nil => rfl
  | cons d t ih =>
    by_cases hd : d = sep
    · subst hd
      have hkept : without drop (d :: t) = d :: without drop t := filter_cons_of_pos (by rw [h]; rfl)
      rw [hkept, fields_cons_sep rfl, fields_cons_sep rfl, ih]
      rfl
    · obtain ⟨first, rest, hfields, hcons⟩ := fields_cons_of_ne hd t
      rw [hfields, map_cons] at ih
      rw [hcons, map_cons]
      cases hdrop : drop d with
      | true =>
        have hout (s : Text) : without drop (d :: s) = without drop s := filter_cons_of_neg (by simp [hdrop])
        rw [hout, hout, ih]
      | false =>
        have hkept (s : Text) : without drop (d :: s) = d :: without drop s :=
          filter_cons_of_pos (by rw [hdrop]; rfl)
        rw [hkept, hkept, fields_cons_other hd ih]

theorem join_cons (sep piece : Text) {ts : List Text} (h : ts ≠ []) :
    join sep (piece :: ts) = piece ++ sep ++ join sep ts := by
  cases ts with
  | nil => exact absurd rfl h
  | cons t ts => rfl

theorem join_prefix_append (sep : Text) (ts us : List Text) : join sep ts <+: join sep (ts ++ us) := by
  induction ts with
  | nil => exact nil_prefix
  | cons t ts ih =>
    by_cases hts : ts = []
    · subst hts
      cases us with
      | nil => exact prefix_rfl
      | cons u us => exact (prefix_append t sep).trans (prefix_append _ _)
    · rw [cons_append, join_cons _ _ hts, join_cons _ _ (by simp [hts])]
      exact (prefix_append_right_inj _).mpr ih

theorem length_le_join (sep : Text) {ts : List Text} (h : ∀ t ∈ ts, t ≠ []) : ts.length ≤ (join sep ts).length := by
  induction ts with
  | nil => exact Nat.le_refl 0
  | cons t ts ih =>
    rw [forall_mem_cons] at h
    have hpos : 0 < t.length := length_pos_iff.mpr h.1
    have hts := ih h.2
    by_cases hnil : ts = []
    · subst hnil
      exact hpos
    · rw [join_cons _ _ hnil, length_cons, length_append, length_append]
      omega

theorem mem_join {c : Char} {sep : Text} {ts : List Text} (h : c ∈ join sep ts) : c ∈ sep ∨ ∃ t ∈ ts, c ∈ t := by
  induction ts with
  | nil => cases h
  | cons t ts ih =>
    cases ts with
    | nil => exact .inr ⟨t, mem_cons_self, h⟩
    | cons u ts =>
      have hcut : join sep (t :: u :: ts) = t ++ sep ++ join sep (u :: ts) := rfl
      rw [hcut, mem_append, mem_append] at h
      rcases h with (h | h) | h
      · exact .inr ⟨t, mem_cons_self, h⟩
      · exact .inl h
      · rcases ih h with h | ⟨w, hw, hc⟩
        · exact .inl h
        · exact .inr ⟨w, mem_cons_of_mem t hw, hc⟩

theorem join_fields (sep : Char) (t : Text) : join [sep] (fields sep t) = t := by
  induction t with
  | nil => rfl
  | cons d t ih =>
    by_cases hd : d = sep
    · rw [fields_cons_sep hd, join_cons _ _ fields_ne_nil, ih, hd]
      rfl
    · obtain ⟨first, rest, hfields, hcons⟩ := fields_cons_of_ne hd t
      rw [hfields] at ih
      rw [hcons, ← ih]
      cases rest with
      | nil => rfl
      | cons u rest => rfl

theorem fields_join {ts : List Text} (hne : ts ≠ []) (h : ∀ t ∈ ts, sep ∉ t) : fields sep (join [sep] ts) = ts := by
  induction ts with
  | nil => exact absurd rfl hne
  | cons t ts ih =>
    rw [forall_mem_cons] at h
    by_cases hts : ts = []
    · subst hts
      exact fields_of_not_mem h.1
    · rw [join_cons _ _ hts, append_assoc, singleton_append, fields_append_cons h.1, ih hts h.2]

theorem exists_of_mem_join (sep : Char) {ts : List Text} (h : piece ∈ ts) : ∃ front back,
    join [sep] ts = front ++ piece ++ back ∧ (front = [] ∨ ∃ first, ∃ t ∈ ts, front = first ++ t ++ [sep]) := by
  induction ts with
  | nil => cases h
  | cons u ts ih =>
    rcases mem_cons.mp h with rfl | h
    · cases ts with
      | nil => exact ⟨[], [], by simp [join], .inl rfl⟩
      | cons w ts =>
        exact ⟨[], [sep] ++ join [sep] (w :: ts), by rw [join_cons _ _ (cons_ne_nil _ _)]; simp, .inl rfl⟩
    · obtain ⟨front, back, hjoin, hfront⟩ := ih h
      refine ⟨u ++ [sep] ++ front, back, ?_, .inr ?_⟩
      · rw [join_cons _ _ (ne_nil_of_mem h), hjoin]
        simp
      · rcases hfront with rfl | ⟨first, t, ht, rfl⟩
        · exact ⟨[], u, mem_cons_self, by simp⟩
        · exact ⟨u ++ [sep] ++ first, t, mem_cons_of_mem u ht, by simp⟩

theorem exists_of_mem_fields (h : piece ∈ fields sep t) :
    ∃ front back, t = front ++ piece ++ back ∧ (front = [] ∨ ∃ first, front = first ++ [sep]) := by
  obtain ⟨front, back, hjoin, hfront⟩ := exists_of_mem_join sep h
  rw [join_fields] at hjoin
  refine ⟨front, back, hjoin, hfront.imp_right ?_⟩
  rintro ⟨first, u, -, rfl⟩
  exact ⟨first ++ u, rfl⟩

end Geoscript.Text
