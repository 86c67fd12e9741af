import Geoscript.Proofs.Pattern.Accept
import Geoscript.Proofs.Text.Fields

/-! Replacements as scans: a *scan* goes through a text once from the left and writes a fixed text for the next `n`
characters where the character before and the text behind are a hit. A scan can be cut at a character that no hit
reaches over (`scan_append_cons`). -/

namespace Geoscript.Text
open List
variable {hit : Option Char → Text → Bool} {n k : Nat} {new t old a b : Text} {prev : Option Char} {c : Char}

/-- Writes `new` for the `n` characters at every hit, and skips the first `k` characters. -/
def scan (hit : Option Char → Text → Bool) (n : Nat) (new : Text) : Option Char → Nat → Text → Text
  | _, _, [] => []
  | _, k + 1, ch :: t => scan hit n new (some ch) k t
  | prev, 0, ch :: t =>
    if hit prev (ch :: t) then new ++ scan hit n new (some ch) (n - 1) t
    else ch :: scan hit n new (some ch) 0 t

def hitsOf (old : Text) : Option Char → Text → Bool :=
  fun _ t => old.isPrefixOf t

theorem replaceGo_eq_scan : replaceGo old new k t = scan (hitsOf old) old.length new prev k t := by
  induction t generalizing k prev with
  | nil => cases k <;> rfl
  | cons ch t ih =>
    cases k with
    | zero =>
      rw [replaceGo, scan, ← ih, ← ih]
      rfl
    | succ k => rw [replaceGo, scan, ih]

theorem replace_eq_scan (hold : old ≠ []) : replace old new t = scan (hitsOf old) old.length new none 0 t := by
  rw [replace_eq_go hold, replaceGo_eq_scan]

theorem scan_eq_self (h : ∀ prev u, u <:+ t → hit prev u = false) : scan hit n new prev 0 t = t := by
  induction t generalizing prev with
  | nil => rfl
  | cons ch t ih =>
    rw [scan, h prev _ (suffix_refl _), ih fun prev u hu => h prev u (hu.trans (suffix_cons ch t))]
    rfl

theorem mem_scan (h : c ∈ scan hit n new prev k t) : c ∈ t ∨ c ∈ new := by
  induction t generalizing prev k with
  | nil =>
    cases k <;> exact absurd h not_mem_nil
  | cons ch t ih =>
    cases k with
    | succ k =>
      rw [scan] at h
      exact (ih h).imp_left (mem_cons_of_mem ch)
    | zero =>
      rw [scan] at h
      split at h
      · rcases mem_append.mp h with h | h
        · exact .inr h
        · exact (ih h).imp_left (mem_cons_of_mem ch)
      · rcases mem_cons.mp h with rfl | h
        · exact .inl mem_cons_self
        · exact (ih h).imp_left (mem_cons_of_mem ch)

/-- Characters that stand neither in what is replaced nor in what is written are kept in number. -/
theorem countP_scan {q : Char → Bool} (hn : 0 < n) (hnew : new.countP q = 0)
    (hhit : ∀ prev u, hit prev u → (u.take n).countP q = 0) :
    (scan hit n new prev k t).countP q = (t.drop k).countP q := by
  induction t generalizing prev k with
  | nil => cases k <;> rfl
  | cons ch t ih =>
    cases k with
    | succ k => rw [scan, ih, drop_succ_cons]
    | zero =>
      rw [scan, drop_zero]
      split
      · next h =>
        obtain ⟨n, rfl⟩ := Nat.exists_eq_add_of_lt hn
        have hcut := congrArg (countP q) (take_append_drop (0 + n + 1) (ch :: t))
        rw [countP_append, hhit _ _ h, drop_succ_cons] at hcut
        rw [countP_append, hnew, ih, Nat.add_sub_cancel]
        exact hcut
      · rw [countP_cons, countP_cons, ih, drop_zero]

/-! ### Cutting a scan -/

/-- No hit reaches over a `c` or looks beyond it. -/
structure Cuts (hit : Option Char → Text → Bool) (n : Nat) (c : Char) : Prop where
  border : ∀ prev a b, a ≠ [] → hit prev (a ++ c :: b) = hit prev a
  miss : ∀ prev b, hit prev (c :: b) = false
  fresh : ∀ t, hit (some c) t = hit none t
  room : ∀ prev t, hit prev t → n ≤ t.length

theorem scan_fresh (h : Cuts hit n c) : scan hit n new (some c) 0 t = scan hit n new none 0 t := by
  cases t with
  | nil => rfl
  | cons ch t => rw [scan, scan, h.fresh]

theorem scan_append_cons (h : Cuts hit n c) (hk : k ≤ a.length) :
    scan hit n new prev k (a ++ c :: b) = scan hit n new prev k a ++ c :: scan hit n new none 0 b := by
  induction a generalizing prev k with
  | nil =>
    obtain rfl : k = 0 := Nat.le_zero.mp hk
    have hmiss : scan hit n new prev 0 (c :: b) = c :: scan hit n new (some c) 0 b := by
      rw [scan, h.miss]
      rfl
    rw [nil_append, hmiss, scan_fresh h, scan, nil_append]
  | cons ch a ih =>
    cases k with
    | succ k => rw [cons_append, scan, scan, ih (Nat.le_of_succ_le_succ hk)]
    | zero =>
      have hborder := h.border prev (ch :: a) b (cons_ne_nil _ _)
      rw [cons_append] at hborder ⊢
      rw [scan, scan, hborder]
      split
      · next hhit =>
        have hroom := h.room _ _ hhit
        rw [length_cons] at hroom
        rw [ih (by omega), append_assoc]
      · rw [ih (Nat.zero_le _), cons_append]

theorem cuts_hitsOf (hold : old ≠ []) (hc : c ∉ old) : Cuts (hitsOf old) old.length c where
  border _ a b _ := by
    rw [Bool.eq_iff_iff]
    simp only [hitsOf, isPrefixOf_iff_prefix]
    exact ⟨prefix_of_prefix_append_cons hc, fun h => h.trans (prefix_append a _)⟩
  miss _ b := by
    rw [hitsOf, ← Bool.not_eq_true, isPrefixOf_iff_prefix]
    intro h
    rcases prefix_cons_iff.mp h with rfl | ⟨u, rfl, -⟩
    · exact hold rfl
    · exact hc mem_cons_self
  fresh _ := rfl
  room _ t h := (List.isPrefixOf_iff_prefix.mp h).length_le

theorem replace_append_cons (hold : old ≠ []) (hc : c ∉ old) :
    replace old new (a ++ c :: b) = replace old new a ++ c :: replace old new b := by
  rw [replace_eq_scan hold, replace_eq_scan hold, replace_eq_scan hold,
    scan_append_cons (cuts_hitsOf hold hc) (Nat.zero_le _)]

theorem mem_replace (hold : old ≠ []) (h : c ∈ replace old new t) : c ∈ t ∨ c ∈ new := by
  rw [replace_eq_scan hold] at h
  exact mem_scan h

theorem fields_replace {sep : Char} (hold : old ≠ []) (hsep : sep ∉ old) (hnew : sep ∉ new) (t : Text) :
    fields sep (replace old new t) = (fields sep t).map (replace old new) := by
  have hkept : ∀ {a : Text}, sep ∉ a → sep ∉ replace old new a := fun ha h =>
    (mem_replace hold h).elim ha hnew
  induction hn : t.length using Nat.strongRecOn generalizing t with
  | ind n ih =>
    by_cases hmem : sep ∈ t
    · obtain ⟨a, b, rfl, ha⟩ := eq_append_cons_of_mem hmem
      rw [replace_append_cons hold hsep, fields_append_cons (hkept ha), fields_append_cons ha, map_cons,
        ih b.length (by simp at hn; omega) b rfl]
    · rw [fields_of_not_mem hmem, fields_of_not_mem (hkept hmem)]
      rfl

theorem fields_replace_sep {d e : Char} (h : e ∉ t) : fields e (replace [d] [e] t) = fields d t := by
  have hold : [d] ≠ [] := cons_ne_nil _ _
  induction t with
  | nil => rfl
  | cons c t ih =>
    rw [mem_cons, not_or] at h
    by_cases hc : c = d
    · subst hc
      have hfirst : replace [c] [e] (c :: t) = e :: replace [c] [e] t := replace_append hold t
      rw [hfirst, fields_cons_sep rfl, fields_cons_sep rfl, ih h.2]
    · have hprefix : ¬[d] <+: c :: t := fun hp => hc (cons_prefix_cons.mp hp).1.symm
      obtain ⟨first, rest, hfields, hcons⟩ := fields_cons_of_ne hc t
      rw [replace_cons hold hprefix, hcons, fields_cons_other (Ne.symm h.1) ((ih h.2).trans hfields)]

end Geoscript.Text

namespace Geoscript.Pattern
open List Text
variable {p : Pattern} {hit : Option Char → Text → Bool} {n : Nat}

/-- The pattern matches exactly at the hits, and every match has `n` characters. -/
structure Fixed (p : Pattern) (hit : Option Char → Text → Bool) (n : Nat) : Prop where
  pos : 0 < n
  matched : ∀ {depth moving m} {c : Cursor}, p.matchAt depth moving c = some m →
    hit c.before.head? c.after ∧ ∃ u, u.length = n ∧ c.Over u m.stop
  found : ∀ (depth : Nat) (moving : Bool) {c : Cursor}, hit c.before.head? c.after →
    (p.matchAt depth moving c).isSome

theorem Fixed.of_matcher (hn : 0 < n) (hroom : ∀ prev t, hit prev t → n ≤ t.length)
    (heq : ∀ (calls : Nat → Matcher) (c : Cursor), ∃ caps, ∀ k, matcher calls .forward p c [] k =
      if hit c.before.head? c.after then k ⟨(c.after.take n).reverse ++ c.before, c.after.drop n, c.pos + n⟩ caps
      else none) : p.Fixed hit n where
  pos := hn
  matched {depth moving m c} h := by
    obtain ⟨caps, heq⟩ := heq (calls p depth) c
    rw [matchAt, heq] at h
    by_cases hhit : hit c.before.head? c.after
    · rw [if_pos hhit] at h
      have hlen := length_take_of_le (hroom _ _ hhit)
      refine ⟨hhit, c.after.take n, hlen, ?_⟩
      split at h
      · next he =>
        split at he
        · cases he
        · cases he
          cases h
          exact ⟨(take_append_drop n c.after).symm, rfl, by rw [hlen]⟩
      · cases h
    · rw [if_neg hhit] at h
      cases h
  found depth moving c h := by
    obtain ⟨caps, heq⟩ := heq (calls p depth) c
    have hmoved : (c.pos + n == c.pos) = false := beq_false_of_ne (by omega)
    simp only [matchAt, heq, h, hmoved, Bool.and_false, Bool.false_eq_true, if_false, if_true, Option.isSome_some]

theorem fixed_lit {old : Text} (hold : old ≠ []) : (Pattern.lit old).Fixed (hitsOf old) old.length := by
  have hpos : 0 < old.length := length_pos_iff.mpr hold
  refine .of_matcher hpos (fun _ t h => (List.isPrefixOf_iff_prefix.mp h).length_le) fun calls c => ?_
  refine ⟨[], fun k => ?_⟩
  rw [matcher_lit, hitsOf]
  split
  · next h => rw [← prefix_iff_eq_take.mp (List.isPrefixOf_iff_prefix.mp h)]
  · rfl

/-! ### A replaced pattern -/

theorem scan_over {new u : Text} {c c' : Cursor} (h : c.Over u c') :
    scan hit n new c.before.head? u.length c.after = scan hit n new c'.before.head? 0 c'.after := by
  induction u generalizing c with
  | nil =>
    obtain rfl := h.eq_of_nil
    rfl
  | cons ch u ih =>
    obtain ⟨c₁, hc₁, hover⟩ := Cursor.Over.split (u := [ch]) (v := u) h
    have hbefore : c₁.before.head? = some ch := by
      rw [hc₁.before]
      rfl
    rw [← ih hover, hbefore, hc₁.after]
    rfl

theorem scan_of_misses {new u : Text} {c c' : Cursor} (h : c.Over u c')
    (hmiss : ∀ v w c₁, u = v ++ w → w ≠ [] → c.Over v c₁ → hit c₁.before.head? c₁.after = false) :
    scan hit n new c.before.head? 0 c.after = u ++ scan hit n new c'.before.head? 0 c'.after := by
  induction u generalizing c with
  | nil =>
    obtain rfl := h.eq_of_nil
    rfl
  | cons ch u ih =>
    obtain ⟨c₁, hc₁, hover⟩ := Cursor.Over.split (u := [ch]) (v := u) h
    have hstart := hmiss [] (ch :: u) c rfl (cons_ne_nil _ _) (.refl c)
    have hrest := ih hover fun v w c₂ hvw hw hc₂ => by
      refine hmiss (ch :: v) w c₂ (by rw [hvw]; rfl) hw ?_
      exact hc₁.trans hc₂
    have hbefore : c₁.before.head? = some ch := by
      rw [hc₁.before]
      rfl
    have hafter : c.after = ch :: c₁.after := hc₁.after
    rw [hafter] at hstart
    rw [hbefore] at hrest
    rw [hafter, scan, hstart, hrest]
    rfl

theorem Fixed.rebuild_eq_scan (h : p.Fixed hit n) {new : Text} {depth fuel : Nat} {moving : Bool} {c : Cursor}
    (hfuel : c.after.length < fuel) :
    rebuild (fun _ => new) c (p.matchesFrom depth fuel moving c) = scan hit n new c.before.head? 0 c.after := by
  induction fuel generalizing c moving with
  | zero => omega
  | succ fuel ih =>
    have hmissed : ∀ {moving} {c : Cursor}, p.matchAt depth moving c = none → hit c.before.head? c.after = false := by
      intro moving c hnone
      rw [← Bool.not_eq_true]
      intro hhit
      have hsome := h.found depth moving hhit
      rw [hnone] at hsome
      cases hsome
    rw [matchesFrom]
    split
    · next hnone =>
      have hend : c.Over c.after ⟨c.after.reverse ++ c.before, [], c.pos + c.after.length⟩ :=
        ⟨by simp, rfl, rfl⟩
      rw [scan_of_misses hend fun v w c₁ _ _ hc₁ => hmissed (searchFrom_none hnone hc₁)]
      simp [rebuild, scan]
    · next m hm =>
      obtain ⟨u, hover, hmatch, hfirst⟩ := searchFrom_some hm
      obtain ⟨hhit, v, hv, hstop⟩ := h.matched hmatch
      have hpos := h.pos
      have hlen : c.after.length = u.length + (v.length + m.stop.after.length) := by
        rw [hover.after, hstop.after, length_append, length_append]
      rw [rebuild, hover.upTo, ih (by omega),
        scan_of_misses hover fun v w c₁ hvw hw hc₁ => hmissed (hfirst v w c₁ hvw hw hc₁), ← scan_over hstop]
      cases hafter : m.start.after with
      | nil =>
        have := congrArg List.length hafter
        rw [hstop.after, length_append, hv, length_nil] at this
        omega
      | cons ch rest =>
        rw [hafter] at hhit
        obtain ⟨k, rfl⟩ := Nat.exists_eq_add_of_lt hpos
        rw [hv, scan, scan, if_pos hhit, append_assoc, Nat.add_sub_cancel]

theorem Fixed.replaceAll_eq_scan (h : p.Fixed hit n) (new t : Text) : p.replaceAll new t = scan hit n new none 0 t :=
  h.rebuild_eq_scan (c := .start t) (by simp only [Cursor.start]; omega)

end Geoscript.Pattern
