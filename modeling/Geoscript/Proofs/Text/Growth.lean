import Geoscript.Proofs.Pattern.Scan
import Geoscript.Proofs.Text.Weave

/-! How a replacement changes a text. Counts of characters go up or down with every occurrence of the old piece, so a
longer new piece changes a text exactly if the old one occurs in it (`replace_eq_self_iff`). Of several replacements
those before the first that finds something do nothing (`replaceEach_first`). -/

namespace Geoscript.Text
open List
variable {old new t o : Text} {q : Char → Bool} {c : Char}

/-- A replacement keeps or adds characters of a kind if the new piece has as many of them as the old one. -/
theorem countP_le_replace (hold : old ≠ []) (hq : old.countP q ≤ new.countP q) :
    t.countP q ≤ (replace old new t).countP q ∧
      (old.countP q < new.countP q → old <:+: t → t.countP q < (replace old new t).countP q) := by
  induction t using replace_induction hold with
  | nil =>
    rw [replace_nil hold]
    exact ⟨Nat.le_refl _, fun _ h => absurd (infix_nil.mp h) hold⟩
  | hit t ih =>
    rw [replace_append hold, countP_append, countP_append]
    have := ih.1
    exact ⟨by omega, fun _ _ => by omega⟩
  | miss c t hpre ih =>
    rw [replace_cons hold hpre, countP_cons, countP_cons]
    refine ⟨by have := ih.1; omega, fun hlt h => ?_⟩
    have := ih.2 hlt ((infix_cons_iff.mp h).resolve_left hpre)
    omega

/-- A replacement keeps or drops characters of a kind if the new piece has at most as many of them as the old one. -/
theorem countP_replace_le (hold : old ≠ []) (hq : new.countP q ≤ old.countP q) :
    (replace old new t).countP q ≤ t.countP q := by
  induction t using replace_induction hold with
  | nil => simp [replace_nil hold]
  | hit t ih =>
    rw [replace_append hold, countP_append, countP_append]
    omega
  | miss c t hpre ih =>
    rw [replace_cons hold hpre, countP_cons, countP_cons]
    omega

theorem length_le_replace (hold : old ≠ []) (hlen : old.length ≤ new.length) :
    t.length ≤ (replace old new t).length := by
  have hle := (@countP_le_replace old new t (fun _ => true) hold (by simpa using hlen)).1
  simpa using hle

theorem replace_eq_self_iff (hold : old ≠ []) (hlen : old.length < new.length) :
    replace old new t = t ↔ ¬old <:+: t := by
  refine ⟨fun h hocc => ?_, replace_of_not_occurs hold⟩
  have hlt := (@countP_le_replace old new t (fun _ => true) hold (by simpa using Nat.le_of_lt hlen)).2
    (by simpa using hlen) hocc
  rw [h] at hlt
  exact Nat.lt_irrefl _ hlt

theorem replace_whole (hold : old ≠ []) : replace old new old = new := by
  have happ := @replace_append old new hold []
  rwa [replace_nil hold, append_nil, append_nil] at happ

theorem not_infix_replace (hold : old ≠ []) (hc : c ∉ old) : ¬old <:+: replace old [c] t := by
  induction t using replace_induction hold with
  | nil =>
    rw [replace_nil hold]
    exact fun h => hold (infix_nil.mp h)
  | hit t ih =>
    rw [replace_append hold, singleton_append]
    intro h
    rcases infix_cons_iff.mp h with h | h
    · rcases prefix_cons_iff.mp h with h | ⟨_, rfl, -⟩
      · exact hold h
      · exact hc mem_cons_self
    · exact ih h
  | miss d t hpre ih =>
    intro h
    have hcons : replace old [c] (d :: t) = d :: replace old [c] t := replace_cons hold hpre
    rw [hcons] at h
    rcases infix_cons_iff.mp h with h | h
    · -- What starts here without the new character starts here already in the text.
      rw [← hcons] at h
      rcases @prefix_replace old [] (d :: t) old c hold hc h with h | ⟨-, x, y, -, hy, hnil⟩
      · exact hpre h
      · exact hy (prefix_nil.mp hnil)
    · exact ih h

/-! ### Around one character -/

section
variable {x y u v : Text}

theorem infix_around_iff (hu : c ∉ u) (hv : c ∉ v) : x ++ c :: y <:+: u ++ c :: v ↔ x <:+ u ∧ y <+: v := by
  constructor
  · rintro ⟨a, b, h⟩
    have hcut : (a ++ x) ++ c :: (y ++ b) = u ++ c :: v := by simpa using h
    rcases cut_eq_or_behind hu hcut with ⟨hx, hy⟩ | ⟨mid, -, hmid⟩
    · exact ⟨⟨a, hx⟩, ⟨b, hy⟩⟩
    · exact absurd (hmid ▸ mem_append_right mid mem_cons_self) hv
  · rintro ⟨⟨a, rfl⟩, ⟨b, rfl⟩⟩
    exact ⟨a, b, by simp⟩

theorem replace_around (hu : c ∉ u ++ x) (hv : c ∉ y ++ v) :
    replace (x ++ c :: y) new ((u ++ x) ++ c :: (y ++ v)) = u ++ new ++ v := by
  have hold : x ++ c :: y ≠ [] := by simp
  induction u with
  | nil =>
    have hrest : replace (x ++ c :: y) new v = v := replace_of_not_occurs hold fun h =>
      hv (mem_append_right y (h.subset (mem_append_right x mem_cons_self)))
    have happ : ([] ++ x) ++ c :: (y ++ v) = (x ++ c :: y) ++ v := by simp
    rw [happ, replace_append hold, hrest]
    rfl
  | cons d u ih =>
    rw [cons_append, mem_cons, not_or] at hu
    rw [cons_append, cons_append, replace_cons hold, ih hu.2]
    · rfl
    · rintro ⟨e, he⟩
      have hcut : x ++ c :: (y ++ e) = (d :: (u ++ x)) ++ c :: (y ++ v) := by simpa using he
      have hd : c ∉ d :: (u ++ x) := by simpa [hu.1] using hu.2
      rcases cut_eq_or_behind hd hcut with ⟨hx, -⟩ | ⟨mid, -, hmid⟩
      · have hlen := congrArg length hx
        simp at hlen
        omega
      · exact hv (hmid ▸ mem_append_right mid mem_cons_self)

end

/-! ### Several replacements -/

section
variable {pairs : List (Text × Text)}

theorem replaceEach_of_not_occurs (hold : ∀ r ∈ pairs, r.1 ≠ []) (h : ∀ r ∈ pairs, ¬r.1 <:+: t) :
    replaceEach pairs t = t := by
  induction pairs with
  | nil => rfl
  | cons r pairs ih =>
    rw [forall_mem_cons] at hold h
    rw [replaceEach_cons, replace_of_not_occurs hold.1 h.1, ih hold.2 h.2]

theorem replaceEach_first (hold : ∀ r ∈ pairs, r.1 ≠ []) (h : ∃ r ∈ pairs, r.1 <:+: t) :
    ∃ r ∈ pairs, r.1 <:+: t ∧ ∃ later, later ⊆ pairs ∧ replaceEach pairs t = replaceEach later (replace r.1 r.2 t) := by
  induction pairs with
  | nil =>
    obtain ⟨r, hr, -⟩ := h
    cases hr
  | cons r pairs ih =>
    rw [forall_mem_cons] at hold
    by_cases hr : r.1 <:+: t
    · exact ⟨r, mem_cons_self, hr, pairs, subset_cons_self _ _, rfl⟩
    · obtain ⟨s, hs, hocc⟩ := h
      rcases mem_cons.mp hs with rfl | hs
      · exact absurd hocc hr
      · obtain ⟨s, hs, hocc, later, hlater, heq⟩ := ih hold.2 ⟨s, hs, hocc⟩
        refine ⟨s, mem_cons_of_mem _ hs, hocc, later, subset_cons_of_subset _ hlater, ?_⟩
        rw [replaceEach_cons, replace_of_not_occurs hold.1 hr, heq]

theorem countP_le_replaceEach (h : ∀ r ∈ pairs, r.1 ≠ [] ∧ r.1.countP q ≤ r.2.countP q) :
    t.countP q ≤ (replaceEach pairs t).countP q := by
  induction pairs generalizing t with
  | nil => exact Nat.le_refl _
  | cons r pairs ih =>
    rw [forall_mem_cons] at h
    rw [replaceEach_cons]
    exact Nat.le_trans (countP_le_replace h.1.1 h.1.2).1 (ih h.2)

theorem countP_replaceEach_le (h : ∀ r ∈ pairs, r.1 ≠ [] ∧ r.2.countP q ≤ r.1.countP q) :
    (replaceEach pairs t).countP q ≤ t.countP q := by
  induction pairs generalizing t with
  | nil => exact Nat.le_refl _
  | cons r pairs ih =>
    rw [forall_mem_cons] at h
    rw [replaceEach_cons]
    exact Nat.le_trans (ih h.2) (countP_replace_le h.1.1 h.1.2)

theorem mem_replaceEach (hold : ∀ r ∈ pairs, r.1 ≠ []) (h : c ∈ replaceEach pairs t) :
    c ∈ t ∨ ∃ r ∈ pairs, c ∈ r.2 := by
  induction pairs generalizing t with
  | nil => exact .inl h
  | cons r pairs ih =>
    rw [forall_mem_cons] at hold
    rcases ih hold.2 h with h | ⟨s, hs, hc⟩
    · rcases mem_replace hold.1 h with h | h
      · exact .inl h
      · exact .inr ⟨r, mem_cons_self, h⟩
    · exact .inr ⟨s, mem_cons_of_mem _ hs, hc⟩

theorem replaceEach_append_cons (h : ∀ r ∈ pairs, r.1 ≠ [] ∧ c ∉ r.1) (a b : Text) :
    replaceEach pairs (a ++ c :: b) = replaceEach pairs a ++ c :: replaceEach pairs b := by
  induction pairs generalizing a b with
  | nil => rfl
  | cons r pairs ih =>
    rw [forall_mem_cons] at h
    rw [replaceEach_cons, replace_append_cons h.1.1 h.1.2, ih h.2]
    rfl

theorem replaceEach_join (h : ∀ r ∈ pairs, r.1 ≠ [] ∧ c ∉ r.1) (ts : List Text) :
    replaceEach pairs (join [c] ts) = join [c] (ts.map (replaceEach pairs)) := by
  induction ts with
  | nil => exact replaceEach_of_not_occurs (fun r hr => (h r hr).1) fun r hr hocc => (h r hr).1 (infix_nil.mp hocc)
  | cons t ts ih =>
    by_cases hts : ts = []
    · rw [hts]
      rfl
    · rw [join_cons _ _ hts, map_cons, join_cons _ _ (mt map_eq_nil_iff.mp hts), ← ih, append_assoc, append_assoc]
      exact replaceEach_append_cons h t _

end

end Geoscript.Text
