import Geoscript.Proofs.Text.Cut
import Geoscript.Script.Quote
import Mathlib.Data.List.Basic

/-! Where quoted text opens: at the first mark behind the start of a text (`opening?_eq_firstMark?`). Marks are made
of quotes and backslashes, so the place is kept when other characters are replaced (`opening?_replace`). -/

namespace Geoscript.Script
open List Text
variable {marks : List Text} {mark m t a w w' new : Text} {c d : Char}

/-! ### Marks -/

theorem mem_quoteMarks_iff : mark ∈ quoteMarks ↔ ∃ q, (q = '\'' ∨ q = '"') ∧ (mark = [q] ∨ mark = ['\\', q]) := by
  have hmarks : quoteMarks = [['\''], ['\\', '\''], ['"'], ['\\', '"']] := rfl
  rw [hmarks]
  constructor
  · intro h
    simp only [mem_cons, not_mem_nil, or_false] at h
    rcases h with rfl | rfl | rfl | rfl
    · exact ⟨'\'', .inl rfl, .inl rfl⟩
    · exact ⟨'\'', .inl rfl, .inr rfl⟩
    · exact ⟨'"', .inr rfl, .inl rfl⟩
    · exact ⟨'"', .inr rfl, .inr rfl⟩
  · rintro ⟨q, rfl | rfl, rfl | rfl⟩ <;> simp

theorem ne_nil_of_mem_quoteMarks (h : mark ∈ quoteMarks) : mark ≠ [] := by
  obtain ⟨q, -, rfl | rfl⟩ := mem_quoteMarks_iff.mp h <;> exact cons_ne_nil _ _

theorem prefix_cons_iff_of_mark (h : mark ∈ quoteMarks) :
    mark <+: c :: t ↔ mark = [c] ∨ c = '\\' ∧ ∃ q, t.head? = some q ∧ mark = ['\\', q] := by
  obtain ⟨q, hq, rfl | rfl⟩ := mem_quoteMarks_iff.mp h
  · simp [cons_prefix_cons]
  · cases t with
    | nil => simp [cons_prefix_cons]
    | cons e t => simp [cons_prefix_cons, eq_comm]

theorem mark_unique (h : mark ∈ quoteMarks) (h' : m ∈ quoteMarks) (hmark : mark <+: t) (hm : m <+: t) : mark = m := by
  have hslash : ['\\'] ∉ quoteMarks := by decide
  cases t with
  | nil => exact absurd (prefix_nil.mp hmark) (ne_nil_of_mem_quoteMarks h)
  | cons c t =>
    rcases (prefix_cons_iff_of_mark h).mp hmark with rfl | ⟨rfl, q, hq, rfl⟩ <;>
      rcases (prefix_cons_iff_of_mark h').mp hm with rfl | ⟨hc, q', hq', rfl⟩
    · rfl
    · exact absurd (hc ▸ h) hslash
    · exact absurd h' hslash
    · rw [Option.some.inj (hq.symm.trans hq')]

/-! ### The nearest mark -/

/-- The first place at which one of the marks stands, with what is before it. -/
def firstMark? (marks : List Text) : Text → Option (Text × Text × Text)
  | [] => none
  | c :: t =>
    match marks.find? (·.isPrefixOf (c :: t)) with
    | some mark => some ([], mark, c :: t)
    | none => (firstMark? marks t).map fun place => (c :: place.1, place.2)

def visible (t : Text) : List Text :=
  quoteMarks.filter fun mark => !mark.isPrefixOf t

def places (marks : List Text) (t : Text) : List (Text × Text × Text) :=
  marks.filterMap fun mark => (cutAt? mark t).map fun cut => (cut.1, mark, cut.2)

def nearer (best : Option (Text × Text × Text)) (place : Text × Text × Text) : Option (Text × Text × Text) :=
  match best with
  | none => some place
  | some b => if place.1.length < b.1.length then some place else some b

theorem opening?_eq_foldl (t : Text) : opening? t = (places (visible t) t).foldl nearer none := by
  refine congrArg (foldl nearer none) ?_
  rw [places, visible, filterMap_filter]
  refine filterMap_congr fun mark hmark => ?_
  by_cases hpre : mark <+: t
  · simp [cutAt?_at_start hpre, isPrefixOf_iff_prefix.mpr hpre]
  · cases hcut : cutAt? mark t with
    | none => simp
    | some cut =>
      obtain ⟨before, rest⟩ := cut
      obtain ⟨rfl, hrest⟩ := cutAt?_eq_some hcut
      have hbefore : before ≠ [] := by
        rintro rfl
        exact hpre hrest
      simp [hbefore, hpre]

theorem foldl_nearer_map (c : Char) (l : List (Text × Text × Text)) (best : Option (Text × Text × Text)) :
    (l.map fun place => (c :: place.1, place.2)).foldl nearer (best.map fun place => (c :: place.1, place.2)) =
      (l.foldl nearer best).map fun place => (c :: place.1, place.2) := by
  induction l generalizing best with
  | nil => rfl
  | cons place l ih =>
    rw [map_cons, foldl_cons, foldl_cons, ← ih]
    congr 1
    cases best with
    | none => rfl
    | some b =>
      simp only [nearer, Option.map_some, length_cons, Nat.add_lt_add_iff_right]
      split <;> rfl

theorem foldl_nearer_of_nil {place : Text × Text × Text} {l : List (Text × Text × Text)}
    {best : Option (Text × Text × Text)} (hbest : best = some place ∨ place ∈ l ∧ ∀ b ∈ best, b.1 ≠ [])
    (hplace : place.1 = []) (hunique : ∀ other ∈ l, other.1 = [] → other = place) :
    l.foldl nearer best = some place := by
  induction l generalizing best with
  | nil => exact hbest.resolve_right fun h => not_mem_nil h.1
  | cons other l ih =>
    rw [forall_mem_cons] at hunique
    refine ih ?_ hunique.2
    rcases hbest with rfl | ⟨hmem, hfar⟩
    · refine .inl ?_
      simp [nearer, hplace]
    · by_cases hother : other.1 = []
      · refine .inl ?_
        rw [hunique.1 hother]
        cases best with
        | none => rfl
        | some b =>
          have hb := length_pos_iff.mpr (hfar b rfl)
          rw [nearer, hplace]
          exact if_pos hb
      · have hl : place ∈ l := (mem_cons.mp hmem).resolve_left fun h => hother (h ▸ hplace)
        refine .inr ⟨hl, ?_⟩
        cases best with
        | none => simpa [nearer] using hother
        | some b =>
          have hb := hfar b rfl
          simp only [nearer]
          split <;> simpa

theorem places_foldl_eq (hmarks : ∀ mark ∈ marks, mark ∈ quoteMarks) (t : Text) :
    (places marks t).foldl nearer none = firstMark? marks t := by
  induction t with
  | nil =>
    have hnone : places marks [] = [] := by
      rw [places, filterMap_eq_nil_iff]
      intro mark hmark
      simp [cutAt?, ne_nil_of_mem_quoteMarks (hmarks mark hmark)]
    rw [hnone]
    rfl
  | cons c t ih =>
    rw [firstMark?]
    cases hfind : marks.find? (·.isPrefixOf (c :: t)) with
    | some mark =>
      have hmark := mem_of_find?_eq_some hfind
      have hpre : mark <+: c :: t := by
        have hsome := find?_some hfind
        rwa [List.isPrefixOf_iff_prefix] at hsome
      refine foldl_nearer_of_nil (.inr ⟨?_, fun _ h => absurd h (Option.not_mem_none _)⟩) rfl ?_
      · exact mem_filterMap.mpr ⟨mark, hmark, by rw [cutAt?_at_start hpre]; rfl⟩
      · intro other hother hnil
        obtain ⟨m, hm, hfirst⟩ := mem_filterMap.mp hother
        obtain ⟨⟨before, rest⟩, hcut, rfl⟩ := Option.map_eq_some_iff.mp hfirst
        obtain rfl : before = [] := hnil
        obtain ⟨hrest, hmrest⟩ := cutAt?_eq_some hcut
        obtain rfl : c :: t = rest := hrest
        rw [mark_unique (hmarks m hm) (hmarks mark hmark) hmrest hpre]
    | none =>
      rw [find?_eq_none] at hfind
      have hplaces : places marks (c :: t) = (places marks t).map fun place => (c :: place.1, place.2) := by
        rw [places, places, map_filterMap]
        refine filterMap_congr fun mark hmark => ?_
        rw [cutAt?, if_neg (hfind mark hmark), Option.map_map, Option.map_map]
        rfl
      rw [hplaces, ← ih]
      exact foldl_nearer_map c (places marks t) none

theorem opening?_eq_firstMark? (t : Text) : opening? t = firstMark? (visible t) t := by
  rw [opening?_eq_foldl]
  exact places_foldl_eq (fun _ hmark => (mem_filter.mp hmark).1) t

/-! ### Texts before a mark -/

def Unmarked (marks : List Text) (w : Text) : Text → Prop
  | [] => True
  | c :: a => (∀ mark ∈ marks, ¬mark <+: c :: (a ++ w)) ∧ Unmarked marks w a

theorem firstMark?_append (h : Unmarked marks w a) :
    firstMark? marks (a ++ w) = (firstMark? marks w).map fun place => (a ++ place.1, place.2) := by
  induction a with
  | nil => simp
  | cons c a ih =>
    have hfind : marks.find? (·.isPrefixOf (c :: (a ++ w))) = none := by
      rw [find?_eq_none]
      intro mark hmark
      rw [List.isPrefixOf_iff_prefix]
      exact h.1 mark hmark
    rw [cons_append, firstMark?, hfind, ih h.2]
    simp only [Option.map_map]
    rfl

theorem firstMark?_eq_none (h : firstMark? marks t = none) : Unmarked marks [] t := by
  induction t with
  | nil => trivial
  | cons c t ih =>
    rw [firstMark?] at h
    split at h
    · cases h
    · next hfind =>
      rw [find?_eq_none] at hfind
      refine ⟨fun mark hmark => ?_, ih (Option.map_eq_none_iff.mp h)⟩
      rw [append_nil, ← isPrefixOf_iff_prefix]
      exact hfind mark hmark

theorem firstMark?_eq_some (h : firstMark? marks t = some (a, mark, w)) :
    t = a ++ w ∧ Unmarked marks w a ∧ mark ∈ marks ∧ mark <+: w := by
  induction t generalizing a with
  | nil => cases h
  | cons c t ih =>
    rw [firstMark?] at h
    split at h
    · next hfind =>
      cases h
      refine ⟨rfl, trivial, mem_of_find?_eq_some hfind, ?_⟩
      have hsome := find?_some hfind
      rwa [List.isPrefixOf_iff_prefix] at hsome
    · next hfind =>
      obtain ⟨⟨a', mark', w'⟩, hrest, heq⟩ := Option.map_eq_some_iff.mp h
      cases heq
      rw [find?_eq_none] at hfind
      obtain ⟨rfl, hunmarked, hmark, hpre⟩ := ih hrest
      refine ⟨rfl, ⟨fun m hm => ?_, hunmarked⟩, hmark, hpre⟩
      rw [← isPrefixOf_iff_prefix]
      exact hfind m hm

theorem firstMark?_of_prefix (hmarks : ∀ mark ∈ marks, mark ∈ quoteMarks) (hmark : mark ∈ marks) (h : mark <+: w) :
    firstMark? marks w = some ([], mark, w) := by
  cases w with
  | nil => exact absurd (prefix_nil.mp h) (ne_nil_of_mem_quoteMarks (hmarks mark hmark))
  | cons c w =>
    have hsome : (marks.find? (·.isPrefixOf (c :: w))).isSome :=
      find?_isSome.mpr ⟨mark, hmark, isPrefixOf_iff_prefix.mpr h⟩
    obtain ⟨m, hfind⟩ := Option.isSome_iff_exists.mp hsome
    have hm := find?_some hfind
    rw [List.isPrefixOf_iff_prefix] at hm
    rw [firstMark?, hfind, mark_unique (hmarks m (mem_of_find?_eq_some hfind)) (hmarks mark hmark) hm h]

theorem mem_visible_iff : mark ∈ visible t ↔ mark ∈ quoteMarks ∧ ¬mark <+: t := by
  rw [visible, mem_filter, Bool.not_eq_true', ← Bool.not_eq_true, isPrefixOf_iff_prefix]

theorem mem_quoteMarks_of_mem_visible (h : mark ∈ visible t) : mark ∈ quoteMarks :=
  (mem_visible_iff.mp h).1

theorem opening?_eq_some_iff : opening? t = some (a, mark, w) ↔
    t = a ++ w ∧ Unmarked (visible t) w a ∧ mark ∈ visible t ∧ mark <+: w := by
  rw [opening?_eq_firstMark?]
  constructor
  · exact firstMark?_eq_some
  · rintro ⟨ht, hunmarked, hmark, hpre⟩
    rw [ht] at hunmarked hmark ⊢
    rw [firstMark?_append hunmarked, firstMark?_of_prefix (fun _ => mem_quoteMarks_of_mem_visible) hmark hpre]
    simp

theorem opening?_eq_none_iff : opening? t = none ↔ Unmarked (visible t) [] t := by
  rw [opening?_eq_firstMark?]
  constructor
  · exact firstMark?_eq_none
  · intro h
    have hnone := firstMark?_append h
    rwa [append_nil] at hnone

theorem ne_nil_of_opening? (h : opening? t = some (a, mark, w)) : a ≠ [] := by
  obtain ⟨rfl, -, hmark, hpre⟩ := opening?_eq_some_iff.mp h
  rintro rfl
  exact (mem_visible_iff.mp hmark).2 hpre

/-! ### Text without quotes and backslashes -/

/-- Not a quote and not a backslash, which marks are made of. -/
def Markless (c : Char) : Prop :=
  c ≠ '\'' ∧ c ≠ '"' ∧ c ≠ '\\'

theorem not_prefix_of_markless (hmark : mark ∈ quoteMarks) (hc : Markless c) : ¬mark <+: c :: t := by
  intro h
  obtain ⟨q, hq, rfl | rfl⟩ := mem_quoteMarks_iff.mp hmark
  · obtain rfl := (cons_prefix_cons.mp h).1
    exact hq.elim hc.1 hc.2.1
  · exact hc.2.2 (cons_prefix_cons.mp h).1.symm

theorem not_markless_of_mem (hmark : mark ∈ quoteMarks) (hc : c ∈ mark) : ¬Markless c := by
  rintro ⟨hapostrophe, hquote, hslash⟩
  have hchars : c = '\\' ∨ c = '\'' ∨ c = '"' := by
    obtain ⟨q, hq, rfl | rfl⟩ := mem_quoteMarks_iff.mp hmark
    · rw [mem_singleton] at hc
      exact .inr (hc ▸ hq)
    · rw [mem_pair] at hc
      exact hc.imp_right fun hc : c = q => hc ▸ hq
  rcases hchars with h | h | h
  · exact hslash h
  · exact hapostrophe h
  · exact hquote h

theorem Unmarked.append_left (hmarks : ∀ mark ∈ marks, mark ∈ quoteMarks) {u : Text} (hu : ∀ c ∈ u, Markless c)
    (h : Unmarked marks w a) : Unmarked marks w (u ++ a) := by
  induction u with
  | nil => exact h
  | cons c u ih =>
    rw [forall_mem_cons] at hu
    exact ⟨fun mark hmark => not_prefix_of_markless (hmarks mark hmark) hu.1, ih hu.2⟩

theorem Unmarked.of_markless (hmarks : ∀ mark ∈ marks, mark ∈ quoteMarks) (ha : ∀ c ∈ a, Markless c) :
    Unmarked marks w a := by
  have h := @Unmarked.append_left marks [] w hmarks a ha trivial
  rwa [append_nil] at h

theorem opening?_of_markless (hne : a ≠ []) (ha : ∀ c ∈ a, Markless c) (hmark : mark ∈ quoteMarks) (h : mark <+: w) :
    opening? (a ++ w) = some (a, mark, w) := by
  refine opening?_eq_some_iff.mpr ⟨rfl, .of_markless (fun _ => mem_quoteMarks_of_mem_visible) ha, ?_, h⟩
  obtain ⟨c, a, rfl⟩ := exists_cons_of_ne_nil hne
  exact mem_visible_iff.mpr ⟨hmark, not_prefix_of_markless hmark (ha c mem_cons_self)⟩

theorem opening?_eq_none_of_not_mem (h : '\'' ∉ t) (h' : '"' ∉ t) : opening? t = none := by
  cases hopen : opening? t with
  | none => rfl
  | some place =>
    obtain ⟨a, mark, w⟩ := place
    obtain ⟨rfl, -, hmark, hpre⟩ := opening?_eq_some_iff.mp hopen
    have hin : ∀ q ∈ mark, q ∈ a ++ w := fun q hq => mem_append_right a (hpre.subset hq)
    obtain ⟨q, rfl | rfl, rfl | rfl⟩ := mem_quoteMarks_iff.mp (mem_quoteMarks_of_mem_visible hmark)
    · exact absurd (hin _ (by simp)) h
    · exact absurd (hin _ (by simp)) h
    · exact absurd (hin _ (by simp)) h'
    · exact absurd (hin _ (by simp)) h'

/-! ### Replacing before a mark -/

def SameQuote (w w' : Text) : Prop :=
  ∀ q, q = '\'' ∨ q = '"' → (w.head? = some q ↔ w'.head? = some q)

theorem SameQuote.of_prefix (hne : mark ≠ []) (h : mark <+: w) (h' : mark <+: w') : SameQuote w w' := by
  obtain ⟨c, mark, rfl⟩ := exists_cons_of_ne_nil hne
  obtain ⟨z, rfl⟩ := h
  obtain ⟨z', rfl⟩ := h'
  exact fun q _ => .rfl

theorem replace_cons_self (d : Char) (new t : Text) : replace [d] new (d :: t) = new ++ replace [d] new t :=
  replace_append (cons_ne_nil d []) t

theorem replace_cons_of_ne (hc : c ≠ d) : replace [d] new (c :: t) = c :: replace [d] new t :=
  replace_cons (cons_ne_nil d []) (by simpa using Ne.symm hc)

variable (hd : Markless d) (hne : new ≠ []) (hnew : ∀ c ∈ new, Markless c)
include hd hne hnew

theorem SameQuote.replace (hw : SameQuote w w') (a : Text) : SameQuote (a ++ w) (replace [d] new a ++ w') := by
  intro q hq
  have hmark : ¬Markless q := by
    rcases hq with rfl | rfl <;> simp [Markless]
  cases a with
  | nil => exact hw q hq
  | cons c a =>
    by_cases hc : c = d
    · subst hc
      obtain ⟨e, new, rfl⟩ := exists_cons_of_ne_nil hne
      rw [replace_cons_self]
      simp only [cons_append, head?_cons, Option.some.injEq]
      constructor
      · rintro rfl
        exact absurd hd hmark
      · rintro rfl
        exact absurd (hnew e mem_cons_self) hmark
    · rw [replace_cons_of_ne hc]
      simp

theorem mark_prefix_replace_iff (hmark : mark ∈ quoteMarks) (hw : SameQuote w w') (ha : a ≠ []) :
    mark <+: replace [d] new a ++ w' ↔ mark <+: a ++ w := by
  obtain ⟨c, a, rfl⟩ := exists_cons_of_ne_nil ha
  by_cases hc : c = d
  · subst hc
    obtain ⟨e, new, rfl⟩ := exists_cons_of_ne_nil hne
    rw [replace_cons_self]
    exact iff_of_false (not_prefix_of_markless hmark (hnew e mem_cons_self)) (not_prefix_of_markless hmark hd)
  · have hhead := SameQuote.replace hd hne hnew hw a
    rw [replace_cons_of_ne hc, cons_append, cons_append, prefix_cons_iff_of_mark hmark, prefix_cons_iff_of_mark hmark]
    refine or_congr_right (and_congr_right fun _ => exists_congr fun q => and_congr_left ?_)
    rintro rfl
    obtain ⟨q', hq', h | h⟩ := mem_quoteMarks_iff.mp hmark
    · cases h
    · obtain rfl : q = q' := (cons.inj (cons.inj h).2).1
      exact (hhead q hq').symm

theorem visible_replace (hw : SameQuote w w') (ha : a ≠ []) : visible (replace [d] new a ++ w') = visible (a ++ w) := by
  refine filter_congr fun mark hmark => ?_
  have hiff := mark_prefix_replace_iff hd hne hnew hmark hw ha
  rw [Bool.eq_iff_iff, Bool.not_eq_true', Bool.not_eq_true', ← Bool.not_eq_true, ← Bool.not_eq_true,
    isPrefixOf_iff_prefix, isPrefixOf_iff_prefix, hiff]

theorem Unmarked.replace (hmarks : ∀ mark ∈ marks, mark ∈ quoteMarks) (hw : SameQuote w w')
    (h : Unmarked marks w a) : Unmarked marks w' (replace [d] new a) := by
  induction a with
  | nil => exact h
  | cons c a ih =>
    by_cases hc : c = d
    · subst hc
      rw [replace_cons_self]
      exact .append_left hmarks hnew (ih h.2)
    · have hiff (mark : Text) (hmark : mark ∈ quoteMarks) :=
        mark_prefix_replace_iff hd hne hnew hmark hw (cons_ne_nil c a)
      rw [replace_cons_of_ne hc] at hiff ⊢
      exact ⟨fun mark hmark hpre => h.1 mark hmark ((hiff mark (hmarks mark hmark)).mp hpre), ih h.2⟩

/-- The place where a quoted piece opens is kept when other characters than marks are replaced before it, whatever
follows the mark. -/
theorem opening?_replace (h : opening? (a ++ w) = some (a, mark, w)) (hpre : mark <+: w') :
    opening? (replace [d] new a ++ w') = some (replace [d] new a, mark, w') := by
  have ha := ne_nil_of_opening? h
  obtain ⟨-, hunmarked, hmark, hw⟩ := opening?_eq_some_iff.mp h
  have hsame := SameQuote.of_prefix (ne_nil_of_mem_quoteMarks (mem_quoteMarks_of_mem_visible hmark)) hw hpre
  refine opening?_eq_some_iff.mpr ⟨rfl, ?_, ?_, hpre⟩
  · rw [visible_replace hd hne hnew hsame ha]
    exact hunmarked.replace hd hne hnew (fun _ => mem_quoteMarks_of_mem_visible) hsame
  · rwa [visible_replace hd hne hnew hsame ha]

theorem opening?_replace_none (h : opening? t = none) : opening? (replace [d] new t) = none := by
  have hunmarked := opening?_eq_none_iff.mp h
  by_cases ht : t = []
  · rw [ht, replace_nil (by simp)]
    rfl
  · have hsame : SameQuote [] [] := fun _ _ => .rfl
    have hvisible := visible_replace hd hne hnew hsame ht
    rw [append_nil, append_nil] at hvisible
    rw [opening?_eq_none_iff, hvisible]
    exact hunmarked.replace hd hne hnew (fun _ => mem_quoteMarks_of_mem_visible) hsame

end Geoscript.Script
