import Geoscript.Text.Basic

/-! Replacements from the left, one step at a time (`replace_induction`). What occurs in the result occurs in the text
already, unless it meets the new piece (`infix_replace`). -/

namespace Geoscript.Text
open List
variable {old new t o a b : Text} {c : Char}

/-! ### Pieces of a text -/

theorem has_iff : has o t ↔ o <:+: t := by
  induction t with
  | nil => simp [has]
  | cons c t ih => simp only [has, Bool.or_eq_true, isPrefixOf_iff_prefix, ih, infix_cons_iff]

/-- Of two cuts of a text, the one at a `c` lies before or behind the other. -/
theorem cut_or {α : Type} {a b a' b' : List α} {c : α} (h : a ++ b = a' ++ c :: b') :
    (∃ mid, a = a' ++ c :: mid ∧ b' = mid ++ b) ∨ ∃ mid, a' = a ++ mid ∧ b = mid ++ c :: b' := by
  rcases append_eq_append_iff.mp h with ⟨mid, ha', hb⟩ | ⟨mid, rfl, hmid⟩
  · exact .inr ⟨mid, ha', hb⟩
  · cases mid with
    | nil => exact .inr ⟨[], by simp, hmid.symm⟩
    | cons d mid =>
      obtain ⟨rfl, hb'⟩ := cons.inj hmid
      exact .inl ⟨mid, rfl, hb'⟩

theorem cut_left {a' b' : Text} (hb : c ∉ b) (h : a ++ b = a' ++ c :: b') :
    ∃ mid, a = a' ++ c :: mid ∧ b' = mid ++ b := by
  refine (cut_or h).resolve_right ?_
  rintro ⟨mid, -, rfl⟩
  exact hb (by simp)

theorem cut_right {a' b' : Text} (ha : c ∉ a) (h : a ++ b = a' ++ c :: b') :
    ∃ mid, a' = a ++ mid ∧ b = mid ++ c :: b' := by
  refine (cut_or h).resolve_left ?_
  rintro ⟨mid, rfl, -⟩
  exact ha (by simp)

/-- Two cuts of a text at a `c`, one of them the first: they are the same, or the other lies behind. -/
theorem cut_eq_or_behind {a' b' : Text} (ha : c ∉ a) (h : a' ++ c :: b' = a ++ c :: b) :
    a' = a ∧ b' = b ∨ ∃ mid, a' = a ++ c :: mid ∧ b = mid ++ c :: b' := by
  obtain ⟨mid, rfl, hmid⟩ := cut_right ha h.symm
  cases mid with
  | nil => exact .inl ⟨by simp, (cons.inj hmid).2.symm⟩
  | cons d mid =>
    obtain ⟨rfl, hb⟩ := cons.inj hmid
    exact .inr ⟨mid, rfl, hb⟩

theorem cut_unique {a' b' : Text} (ha : c ∉ a) (ha' : c ∉ a') (h : a' ++ c :: b' = a ++ c :: b) : a' = a ∧ b' = b := by
  refine (cut_eq_or_behind ha h).resolve_right ?_
  rintro ⟨mid, rfl, -⟩
  exact ha' (by simp)

theorem cut_eq_of_last {a' b' : Text} (hb : c ∉ b) (hb' : c ∉ b') (h : a' ++ c :: b' = a ++ c :: b) :
    a' = a ∧ b' = b := by
  rcases cut_or h with ⟨mid, -, rfl⟩ | ⟨mid, rfl, hmid⟩
  · exact absurd (by simp) hb
  · cases mid with
    | nil => exact ⟨by simp, (cons.inj hmid).2⟩
    | cons d mid => exact absurd (by rw [(cons.inj hmid).2]; simp) hb'

theorem prefix_of_prefix_append_cons (hc : c ∉ o) (h : o <+: a ++ c :: b) : o <+: a := by
  obtain ⟨rest, hrest⟩ := h
  obtain ⟨mid, rfl, -⟩ := cut_right hc hrest
  exact prefix_append o mid

theorem infix_append_cons_iff (hc : c ∉ o) : o <:+: a ++ c :: b ↔ o <:+: a ∨ o <:+: b := by
  constructor
  · intro h
    rcases infix_append_iff_ne_nil.mp h with h | h | ⟨p, q, -, hq, rfl, -, hpre⟩
    · exact .inl h
    · rcases infix_cons_iff.mp h with h | h
      · rcases prefix_cons_iff.mp h with rfl | ⟨o, rfl, -⟩
        · exact .inl nil_infix
        · exact absurd mem_cons_self hc
      · exact .inr h
    · rcases prefix_cons_iff.mp hpre with rfl | ⟨o, rfl, -⟩
      · exact absurd rfl hq
      · exact absurd (mem_append_right _ mem_cons_self) hc
  · rintro (h | h)
    · exact infix_append_of_infix_left h
    · exact infix_append_of_infix_right (infix_cons h)

theorem infix_join {ts : List Text} (hne : o ≠ []) (hc : c ∉ o) (h : o <:+: join [c] ts) : ∃ t ∈ ts, o <:+: t := by
  induction ts with
  | nil => exact absurd (infix_nil.mp h) hne
  | cons t ts ih =>
    cases ts with
    | nil => exact ⟨t, mem_cons_self, h⟩
    | cons u ts =>
      rw [join, append_assoc, singleton_append, infix_append_cons_iff hc] at h
      rcases h with h | h
      · exact ⟨t, mem_cons_self, h⟩
      · obtain ⟨v, hv, hov⟩ := ih h
        exact ⟨v, mem_cons_of_mem _ hv, hov⟩
      · exact fun h => nomatch h

theorem infix_join_of_mem {sep : Text} {ts : List Text} (h : t ∈ ts) : t <:+: join sep ts := by
  induction ts with
  | nil => cases h
  | cons u ts ih =>
    cases ts with
    | nil =>
      obtain rfl := mem_singleton.mp h
      exact infix_refl _
    | cons v ts =>
      rw [join]
      · rcases mem_cons.mp h with rfl | h
        · exact infix_append_of_infix_left infix_append_left
        · exact infix_append_of_infix_right (ih h)
      · exact fun h => nomatch h

/-! ### Replacing -/

theorem replaceGo_skip (n : Nat) (t : Text) : replaceGo old new n t = replaceGo old new 0 (t.drop n) := by
  induction n generalizing t with
  | zero => rw [drop_zero]
  | succ n ih =>
    cases t with
    | nil => simp [replaceGo]
    | cons c t => rw [replaceGo, ih, drop_succ_cons]

theorem replace_eq_go (hold : old ≠ []) : replace old new t = replaceGo old new 0 t := by
  cases old with
  | nil => exact absurd rfl hold
  | cons c old => rfl

theorem replace_nil (hold : old ≠ []) : replace old new [] = [] := by
  rw [replace_eq_go hold, replaceGo]

theorem replace_append (hold : old ≠ []) (t : Text) : replace old new (old ++ t) = new ++ replace old new t := by
  rw [replace_eq_go hold, replace_eq_go hold]
  cases old with
  | nil => exact absurd rfl hold
  | cons c old =>
    have hpre : (c :: old).isPrefixOf (c :: (old ++ t)) := by simp
    rw [cons_append, replaceGo, if_pos hpre, replaceGo_skip]
    simp

theorem replace_cons (hold : old ≠ []) (h : ¬old <+: c :: t) : replace old new (c :: t) = c :: replace old new t := by
  rw [replace_eq_go hold, replace_eq_go hold, replaceGo, if_neg]
  rwa [List.isPrefixOf_iff_prefix]

/-- Induction along a replacement: the occurrence at the start of a text, or its first character, is
dealt with and the rest is left. -/
theorem replace_induction (hold : old ≠ []) {P : Text → Prop} (nil : P [])
    (hit : ∀ t, P t → P (old ++ t)) (miss : ∀ c t, ¬old <+: c :: t → P t → P (c :: t)) (t : Text) :
    P t := by
  induction hn : t.length using Nat.strongRecOn generalizing t with
  | ind n ih =>
    by_cases hpre : old <+: t
    · obtain ⟨u, rfl⟩ := hpre
      refine hit u (ih u.length ?_ u rfl)
      have := length_pos_iff.mpr hold
      rw [← hn, length_append]
      omega
    · cases t with
      | nil => exact nil
      | cons c t => exact miss c t hpre (ih t.length (by rw [← hn]; simp) t rfl)

theorem nodup_eraseDups {α : Type} [BEq α] [LawfulBEq α] (l : List α) : l.eraseDups.Nodup := by
  induction hn : l.length using Nat.strongRecOn generalizing l with
  | ind n ih =>
    cases l with
    | nil => simp
    | cons a l =>
      have hlt : (l.filter fun b => !b == a).length < n := by
        rw [← hn, length_cons]
        exact Nat.lt_succ_of_le (length_filter_le _ _)
      rw [eraseDups_cons, nodup_cons, mem_eraseDups, mem_filter]
      exact ⟨by simp, ih _ hlt _ rfl⟩

theorem mem_distinct {ts : List Text} : t ∈ distinct ts ↔ t ∈ ts := by
  simp only [distinct, mem_append, mem_filter, mem_eraseDups, Bool.not_eq_true']
  cases h : t.isEmpty <;> simp

theorem nodup_distinct (ts : List Text) : (distinct ts).Nodup := by
  have hnodup := nodup_eraseDups ts
  refine nodup_append.mpr ⟨hnodup.filter _, hnodup.filter _, ?_⟩
  rintro a ha b hb rfl
  rw [mem_filter] at ha hb
  rw [ha.2] at hb
  exact absurd hb.2 (by decide)

theorem replaceEach_cons (pair : Text × Text) (pairs : List (Text × Text)) (t : Text) :
    replaceEach (pair :: pairs) t = replaceEach pairs (replace pair.1 pair.2 t) :=
  rfl

theorem replace_of_not_occurs (hold : old ≠ []) (h : ¬old <:+: t) : replace old new t = t := by
  induction t with
  | nil => exact replace_nil hold
  | cons c t ih =>
    rw [infix_cons_iff, not_or] at h
    rw [replace_cons hold h.1, ih h.2]

theorem replace_self (old t : Text) : replace old old t = t := by
  by_cases hold : old = []
  · subst hold
    induction t with
    | nil => rfl
    | cons c t ih => exact congrArg (c :: ·) ih
  · induction t using replace_induction hold with
    | nil => exact replace_nil hold
    | hit t ih => rw [replace_append hold, ih]
    | miss c t hpre ih => rw [replace_cons hold hpre, ih]

/-- A replacement drops characters of a kind if the new piece has fewer of them than the old one. -/
theorem countP_replace_lt {q : Char → Bool} (hq : new.countP q < old.countP q) :
    (replace old new t).countP q ≤ t.countP q ∧ (old <:+: t → (replace old new t).countP q < t.countP q) := by
  have hold : old ≠ [] := by
    rintro rfl
    simp at hq
  induction t using replace_induction hold with
  | nil =>
    rw [replace_nil hold]
    exact ⟨Nat.le_refl _, fun h => absurd (infix_nil.mp h) hold⟩
  | hit t ih =>
    rw [replace_append hold, countP_append, countP_append]
    have := ih.1
    exact ⟨by omega, fun _ => by omega⟩
  | miss c t hpre ih =>
    rw [replace_cons hold hpre, countP_cons, countP_cons]
    refine ⟨by have := ih.1; omega, fun h => ?_⟩
    have := ih.2 ((infix_cons_iff.mp h).resolve_left hpre)
    omega

/-- What the result starts with, if it cannot reach over the last character of the new piece: it starts
the text, or goes over into the new piece. -/
theorem prefix_replace (hold : old ≠ []) (hnew : c ∉ o) (h : o <+: replace old (new ++ [c]) t) :
    o <+: t ∨ old <:+: t ∧ ∃ x y, o = x ++ y ∧ y ≠ [] ∧ y <+: new := by
  induction t using replace_induction hold generalizing o with
  | nil =>
    rw [replace_nil hold] at h
    exact .inl h
  | hit t _ =>
    rw [replace_append hold, append_assoc, singleton_append] at h
    have hpre := prefix_of_prefix_append_cons hnew h
    by_cases ho : o = []
    · exact .inl (ho ▸ nil_prefix)
    · exact .inr ⟨infix_append_left, [], o, rfl, ho, hpre⟩
  | miss d t hpre ih =>
    rw [replace_cons hold hpre] at h
    rcases prefix_cons_iff.mp h with rfl | ⟨o', rfl, h'⟩
    · exact .inl nil_prefix
    · rcases ih (fun hc => hnew (mem_cons_of_mem _ hc)) h' with h' | ⟨hocc, x, y, rfl, hy, hy'⟩
      · exact .inl (cons_prefix_cons.mpr ⟨rfl, h'⟩)
      · exact .inr ⟨infix_cons hocc, d :: x, y, rfl, hy, hy'⟩

/-- What occurs in the result, if it cannot reach over the last character of the new piece: it occurs in
the text, or in the new piece, or goes over into the new piece. -/
theorem infix_replace (hold : old ≠ []) (hnew : c ∉ o) (h : o <:+: replace old (new ++ [c]) t) :
    o <:+: t ∨ old <:+: t ∧ (o <:+: new ∨ ∃ x y, o = x ++ y ∧ y ≠ [] ∧ y <+: new) := by
  induction t using replace_induction hold with
  | nil =>
    rw [replace_nil hold] at h
    exact .inl h
  | hit t ih =>
    rw [replace_append hold, append_assoc, singleton_append, infix_append_cons_iff hnew] at h
    rcases h with h | h
    · exact .inr ⟨infix_append_left, .inl h⟩
    · rcases ih h with h | ⟨-, h⟩
      · exact .inl (infix_append_of_infix_right h)
      · exact .inr ⟨infix_append_left, h⟩
  | miss d t hpre ih =>
    rw [replace_cons hold hpre] at h
    rcases infix_cons_iff.mp h with h | h
    · rw [← replace_cons hold hpre] at h
      rcases prefix_replace hold hnew h with h | ⟨hocc, hxy⟩
      · exact .inl h.isInfix
      · exact .inr ⟨hocc, .inr hxy⟩
    · rcases ih h with h | ⟨hocc, h⟩
      · exact .inl (infix_cons h)
      · exact .inr ⟨infix_cons hocc, h⟩

end Geoscript.Text
