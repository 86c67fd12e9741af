import Geoscript.Script.Bracket
import Mathlib.Data.List.Infix

/-! Counting parentheses. A text in which a parenthesis stays open (`StaysOpen`) is passed by every scanner, and only
the number of open ones changes. -/

namespace Geoscript.Script
open List
variable {t rest : Text} {c : Char} {n : Int}

/-- What a text adds to the number of open parentheses. -/
def parenSurplus (t : Text) : Int :=
  count '(' t - count ')' t

/-- With `n` parentheses open before the text, one is open after each part of it. -/
def StaysOpen (n : Int) (t : Text) : Prop :=
  ∀ p, p <+: t → 0 < n + parenSurplus p

/-- No part of the text from its start on closes more parentheses than it opens. -/
def NeverClosed (v : Text) : Prop :=
  ∀ u, u <+: v → count ')' u ≤ count '(' u

structure Balanced (t : Text) : Prop where
  opened : ∀ p, p <+: t → count ')' p ≤ count '(' p
  closed : count '(' t = count ')' t

instance (t : Text) : Decidable (Balanced t) :=
  decidable_of_iff ((∀ p ∈ t.inits, count ')' p ≤ count '(' p) ∧ count '(' t = count ')' t)
    ⟨fun h => ⟨fun p hp => h.1 p ((mem_inits _ _).mpr hp), h.2⟩,
      fun h => ⟨fun p hp => h.opened p ((mem_inits _ _).mp hp), h.closed⟩⟩

def Unparenthesized (t : Text) : Prop :=
  '(' ∉ t ∧ ')' ∉ t

instance (t : Text) : Decidable (Unparenthesized t) :=
  inferInstanceAs (Decidable ('(' ∉ t ∧ ')' ∉ t))

@[simp] theorem parenStep_open : parenStep '(' = 1 := rfl

@[simp] theorem parenStep_close : parenStep ')' = -1 := rfl

theorem parenStep_eq (c : Char) : parenStep c = count '(' [c] - count ')' [c] := by
  by_cases hopen : c = '('
  · simp [parenStep, hopen]
  · by_cases hclose : c = ')' <;> simp [parenStep, hopen, hclose]

theorem parenSurplus_cons (c : Char) (t : Text) : parenSurplus (c :: t) = parenStep c + parenSurplus t := by
  have hcount (d : Char) : count d (c :: t) = count d [c] + count d t := @count_append _ _ d [c] t
  rw [parenSurplus, parenSurplus, hcount, hcount, parenStep_eq]
  omega

theorem Unparenthesized.balanced (h : Unparenthesized t) : Balanced t where
  opened p hp := by
    rw [count_eq_zero.mpr fun hmem => h.2 (hp.subset hmem)]
    exact Nat.zero_le _
  closed := by rw [count_eq_zero.mpr h.1, count_eq_zero.mpr h.2]

theorem Balanced.parenSurplus_eq (h : Balanced t) : parenSurplus t = 0 := by
  rw [parenSurplus, h.closed, Int.sub_self]

/-! ### Texts in which a parenthesis stays open -/

theorem neverClosed_iff : NeverClosed t ↔ StaysOpen 1 t := by
  refine forall_congr' fun u => imp_congr_right fun _ => ?_
  rw [parenSurplus]
  omega

theorem Balanced.staysOpen (h : Balanced t) : StaysOpen 1 t :=
  neverClosed_iff.mp h.opened

theorem StaysOpen.pos (h : StaysOpen n t) : 0 < n := by
  simpa [parenSurplus] using h [] nil_prefix

theorem staysOpen_cons : StaysOpen n (c :: t) ↔ 0 < n ∧ StaysOpen (n + parenStep c) t := by
  have hstep (p : Text) : n + parenSurplus (c :: p) = n + parenStep c + parenSurplus p := by
    rw [parenSurplus_cons, Int.add_assoc]
  constructor
  · exact fun h => ⟨h.pos, fun p hp => hstep p ▸ h (c :: p) (cons_prefix_cons.mpr ⟨rfl, hp⟩)⟩
  · rintro ⟨hn, h⟩ p hp
    rcases prefix_cons_iff.mp hp with rfl | ⟨q, rfl, hq⟩
    · simpa [parenSurplus] using hn
    · exact hstep q ▸ h q hq

/-- A parenthesis stays open all along, or the last one is closed at some place. -/
theorem staysOpen_or (hn : 0 < n) (t : Text) :
    StaysOpen n t ∨ ∃ a b, t = a ++ ')' :: b ∧ StaysOpen n a ∧ n + parenSurplus a = 1 := by
  induction t generalizing n with
  | nil => exact .inl fun p hp => by simpa [prefix_nil.mp hp, parenSurplus] using hn
  | cons c t ih =>
    by_cases hnext : 0 < n + parenStep c
    · rcases ih hnext with h | ⟨a, b, rfl, ha, hone⟩
      · exact .inl (staysOpen_cons.mpr ⟨hn, h⟩)
      · exact .inr ⟨c :: a, b, rfl, staysOpen_cons.mpr ⟨hn, ha⟩, by rw [parenSurplus_cons]; omega⟩
    · have hclose : c = ')' ∧ n = 1 := by
        unfold parenStep at hnext
        split at hnext
        · omega
        · split at hnext <;> simp_all; omega
      obtain ⟨rfl, rfl⟩ := hclose
      exact .inr ⟨[], t, rfl, Balanced.staysOpen (by decide), rfl⟩

/-! ### Scanners -/

theorem StaysOpen.afterBalance_append (h : StaysOpen n t) (rest : Text) :
    afterBalance n (t ++ rest) = afterBalance (n + parenSurplus t) rest := by
  induction t generalizing n with
  | nil => simp [parenSurplus]
  | cons c t ih =>
    obtain ⟨-, h⟩ := staysOpen_cons.mp h
    rw [cons_append, afterBalance, if_neg (Int.ne_of_gt h.pos), ih h, parenSurplus_cons, Int.add_assoc]

theorem StaysOpen.throughCall_append (h : StaysOpen n t) (hrest : rest ≠ []) :
    throughCall true n (t ++ rest) = (throughCall true (n + parenSurplus t) rest).map (t ++ ·) := by
  induction t generalizing n with
  | nil =>
    rw [nil_append, show parenSurplus [] = 0 from rfl, Int.add_zero]
    cases throughCall true n rest <;> rfl
  | cons c t ih =>
    obtain ⟨-, h⟩ := staysOpen_cons.mp h
    rw [cons_append, throughCall, if_neg (by simp [hrest, Int.ne_of_gt h.pos]), Bool.true_or, ih h, parenSurplus_cons,
      Int.add_assoc]
    cases throughCall true (n + (parenStep c + parenSurplus t)) rest <;> rfl

theorem untilClosed_step {depth next : Nat} (h : depth + parenStep c = next) :
    untilClosed depth (c :: t) = (untilClosed next t).map (c :: ·) := by
  by_cases hopen : c = '('
  · subst hopen
    obtain rfl : next = depth + 1 := Int.ofNat.inj h.symm
    rfl
  · by_cases hclose : c = ')'
    · subst hclose
      have hback : (depth : Int) + -1 = next := h
      obtain rfl : depth = next + 1 := by omega
      rfl
    · obtain rfl : depth = next := Int.ofNat.inj (by simpa [parenStep, hopen, hclose] using h)
      simp [untilClosed, hopen, hclose]

theorem StaysOpen.untilClosed_append {depth last : Nat} (h : StaysOpen (depth + 1) t)
    (hlast : depth + parenSurplus t = last) (rest : Text) :
    untilClosed depth (t ++ rest) = (untilClosed last rest).map (t ++ ·) := by
  induction t generalizing depth with
  | nil =>
    obtain rfl : depth = last := Int.ofNat.inj hlast
    rw [nil_append]
    cases untilClosed depth rest <;> rfl
  | cons c t ih =>
    obtain ⟨-, h⟩ := staysOpen_cons.mp h
    have hpos := h.pos
    obtain ⟨next, hnext⟩ : ∃ next : Nat, depth + parenStep c = next := ⟨_, (Int.toNat_of_nonneg (by omega)).symm⟩
    rw [Int.add_right_comm, hnext] at h
    rw [parenSurplus_cons, ← Int.add_assoc, hnext] at hlast
    rw [cons_append, untilClosed_step hnext, ih h hlast]
    cases untilClosed last rest <;> rfl

theorem StaysOpen.untilClosed_closed (h : StaysOpen 1 t) (hzero : parenSurplus t = 0) (rest : Text) :
    untilClosed 0 (t ++ ')' :: rest) = .ok t := by
  have hall : untilClosed 0 (t ++ ')' :: rest) = (untilClosed 0 (')' :: rest)).map (t ++ ·) :=
    StaysOpen.untilClosed_append h (by omega) _
  rw [hall]
  exact congrArg Except.ok (append_nil t)

theorem StaysOpen.untilClosed_eq (h : StaysOpen 1 t) : untilClosed 0 t = .error .outOfRange := by
  have hpos := h t prefix_rfl
  have hall : untilClosed 0 (t ++ []) = (untilClosed (parenSurplus t).toNat []).map (t ++ ·) :=
    StaysOpen.untilClosed_append h (by omega) []
  rw [append_nil] at hall
  exact hall

theorem insideParensFrom_cons (n : Int) (c : Char) (t : Text) : insideParensFrom n (c :: t) =
    (if 0 < n - count ')' [c] then [c] else []) ++ insideParensFrom (n + parenStep c) t := by
  by_cases hclose : c = ')'
  · simp [insideParensFrom, parenStep, hclose, ← Int.sub_eq_add_neg]
    split <;> rfl
  · by_cases hopen : c = '('
    · simp [insideParensFrom, parenStep, hopen]
      split <;> rfl
    · simp [insideParensFrom, parenStep, hclose, hopen]
      split <;> rfl

theorem insideParensFrom_append (a b : Text) (n : Int) :
    insideParensFrom n (a ++ b) = insideParensFrom n a ++ insideParensFrom (n + parenSurplus a) b := by
  induction a generalizing n with
  | nil => simp [insideParensFrom, parenSurplus]
  | cons c a ih =>
    rw [cons_append, insideParensFrom_cons, insideParensFrom_cons, ih, append_assoc, parenSurplus_cons, Int.add_assoc]

theorem StaysOpen.insideParensFrom_eq (h : StaysOpen n t) : insideParensFrom n t = t := by
  induction t generalizing n with
  | nil => rfl
  | cons c t ih =>
    obtain ⟨hn, h⟩ := staysOpen_cons.mp h
    have hkept : 0 < n - count ')' [c] := by
      have hpos := h.pos
      have hone : count '(' [c] = 0 ∨ count ')' [c] = 0 := by
        by_cases hc : c = '(' <;> simp [hc]
      rw [parenStep_eq] at hpos
      omega
    rw [insideParensFrom_cons, if_pos hkept, ih h, singleton_append]

theorem Unparenthesized.insideParensFrom_append (h : Unparenthesized t) (rest : Text) :
    insideParensFrom n (t ++ rest) = (if 0 < n then t else []) ++ insideParensFrom n rest := by
  induction t with
  | nil => split <;> rfl
  | cons c t ih =>
    simp only [Unparenthesized, mem_cons, not_or] at h
    have hcount : count ')' [c] = 0 := by simp [Ne.symm h.2.1]
    have hstep : parenStep c = 0 := by simp [parenStep, Ne.symm h.1.1, Ne.symm h.2.1]
    rw [cons_append, insideParensFrom_cons, hcount, hstep, Int.add_zero, ih ⟨h.1.2, h.2.2⟩, Int.ofNat_zero, Int.sub_zero]
    split <;> rfl

/-! ### The parenthesis that closes the first one -/

theorem afterHeader_paren {front : Text} (hfront : '(' ∉ front) (rest : Text) :
    afterHeader (front ++ '(' :: rest) = afterBalance 1 rest := by
  have hbefore : ∀ d ∈ front, (d != '(') := by
    intro d hd
    rw [bne_iff_ne]
    rintro rfl
    exact hfront hd
  have hdrop : (front ++ '(' :: rest).dropWhile (· != '(') = '(' :: rest := by
    rw [dropWhile_append_of_pos hbefore]
    rfl
  obtain ⟨last, hlast⟩ : ∃ last, (front ++ '(' :: rest).getLast? = some last :=
    Option.isSome_iff_exists.mp (by simp)
  rw [afterHeader, hlast]
  simp only [hdrop]
  rfl

theorem Balanced.afterHeader (h : Balanced t) {front : Text} (hfront : '(' ∉ front) (rest : Text) :
    afterHeader (front ++ '(' :: (t ++ ')' :: rest)) = .ok rest := by
  rw [afterHeader_paren hfront, h.staysOpen.afterBalance_append, h.parenSurplus_eq]
  rfl

theorem Unparenthesized.throughCall_append (h : Unparenthesized t) (rest : Text) :
    throughCall false 0 (t ++ rest) = (throughCall false 0 rest).map (t ++ ·) := by
  induction t with
  | nil =>
    rw [nil_append]
    cases throughCall false 0 rest <;> rfl
  | cons c t ih =>
    simp only [Unparenthesized, mem_cons, not_or] at h
    have hne : (c == '(') = false := by simp [Ne.symm h.1.1]
    simp [throughCall, parenStep, hne, Ne.symm h.2.1, ih ⟨h.1.2, h.2.2⟩]
    cases throughCall false 0 rest <;> rfl

theorem Balanced.throughCall_eq (h : Balanced t) {front : Text} (hfront : Unparenthesized front) (rest : Text) :
    throughCall false 0 (front ++ '(' :: (t ++ ')' :: rest)) = .ok (front ++ '(' :: (t ++ [')'])) := by
  have hinside : throughCall true 1 (t ++ ')' :: rest) = .ok (t ++ [')']) := by
    rw [h.staysOpen.throughCall_append (cons_ne_nil _ _), h.parenSurplus_eq]
    simp [throughCall, parenStep, Except.map]
  rw [hfront.throughCall_append]
  simp [throughCall, parenStep, hinside, Except.map]

theorem insideParensFrom_outside {a : Text} (b : Text) (ha : Unparenthesized a) :
    insideParensFrom 0 (a ++ '(' :: b) = insideParensFrom 1 b := by
  rw [ha.insideParensFrom_append, if_neg (by decide), nil_append]
  rfl

end Geoscript.Script
