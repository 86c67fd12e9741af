import Geoscript.Proofs.Script.Operator

/-! Negated names. The sign is replaced together with the character behind it, so the negation of a name in
parentheses loses the first character of the name. -/

namespace Geoscript.Text
open List
variable {hit : Option Char → Text → Bool} {n k : Nat} {new t : Text} {prev : Option Char}

theorem length_scan (hn : 0 < n) (hnew : new.length = n) (hroom : ∀ prev u, hit prev u → n ≤ u.length) :
    (scan hit n new prev k t).length = t.length - k := by
  induction t generalizing prev k with
  | nil => cases k <;> simp [scan]
  | cons c t ih =>
    cases k with
    | succ k => rw [scan, ih, length_cons, Nat.add_sub_add_right]
    | zero =>
      rw [scan]
      split
      · next hhit =>
        have := hroom _ _ hhit
        rw [length_cons] at this
        rw [length_append, ih, hnew, length_cons]
        omega
      · rw [length_cons, ih, length_cons]
        omega

end Geoscript.Text

namespace Geoscript.Script
open List Text Pattern
variable {w t new : Text} {c : Char}

/-- The constants and what is written for them. -/
def constants : List (String × Text) :=
  [("true", "True"), ("false", "False"), ("null", "None")]

/-- A text in which the constants that no letter touches are converted. -/
def convertConstants (t : Text) : Text :=
  constants.foldl (fun t (word, new) => (loneWord word).replaceAll new t) t

/-- Letters, digits and underscores of the basic Latin block. -/
def Basic (w : Text) : Prop :=
  ∀ c ∈ w, isBasicWord c

/-! ### One operator -/

/-- Some character of a text stands neither in a name nor in the signs around the name. -/
def Foreign (x old : Text) : Prop :=
  old.any (fun c => !isBasicWord c && !(x ++ [')']).contains c)

instance (x old : Text) : Decidable (Foreign x old) :=
  inferInstanceAs (Decidable (_ = true))

theorem not_infix_of_foreign {x old : Text} (h : Foreign x old) (hw : Basic w) : ¬old <:+: x ++ (w ++ [')']) := by
  obtain ⟨c, hc, hforeign⟩ := any_eq_true.mp h
  simp only [Bool.and_eq_true, Bool.not_eq_true', contains_eq_mem, decide_eq_false_iff_not, mem_append,
    not_or] at hforeign
  intro hocc
  have hmem := hocc.subset hc
  simp only [mem_append] at hmem
  rcases hmem with hmem | hmem | hmem
  · exact hforeign.2.1 hmem
  · rw [hw c hmem] at hforeign
    cases hforeign.1
  · exact hforeign.2.2 hmem

theorem replaceAll_foreign {x : Text} {s : String} (h : Foreign x s.toList) (hw : Basic w) :
    (Pattern.str s).replaceAll new (x ++ (w ++ [')'])) = x ++ (w ++ [')']) := by
  have hs : s.toList ≠ [] := fun hnil => by
    rw [hnil] at h
    cases h
  rw [Pattern.str, (fixed_lit hs).replaceAll_eq_scan, ← replace_eq_scan hs]
  exact replace_of_not_occurs hs (not_infix_of_foreign h hw)

theorem replaceAll_constant {word : String × Text} (hword : word ∈ constants) (w : Text) :
    (loneWord word.1).replaceAll word.2 ("(!" ++ (w ++ [')'])) =
      "(!" ++ ((loneWord word.1).replaceAll word.2 w ++ [')']) := by
  have hall : ∀ word ∈ constants, word.1.toList ≠ [] ∧ '(' ∉ word.1.toList ∧ '!' ∉ word.1.toList ∧
      ')' ∉ word.1.toList := by decide
  obtain ⟨hne, hopen, hsign, hclose⟩ := hall word hword
  have hfirst {c : Char} (hc : c ∉ word.1.toList) (hletter : wordLetters.has c = false) (t : Text) :
      scan (loneHits word.1.toList) word.1.toList.length word.2 none 0 (c :: t) =
        c :: scan (loneHits word.1.toList) word.1.toList.length word.2 none 0 t :=
    scan_append_cons (a := []) (cuts_loneHits hne hc hletter) (Nat.zero_le _)
  have hstart (t : Text) : "(!" ++ t = '(' :: '!' :: t := rfl
  rw [(fixed_loneWord hne).replaceAll_eq_scan, (fixed_loneWord hne).replaceAll_eq_scan, hstart, hfirst hopen rfl,
    hfirst hsign rfl, scan_append_cons (cuts_loneHits hne hclose rfl) (Nat.zero_le _)]
  rfl

theorem replaceAll_constant_basic {word : String × Text} (hword : word ∈ constants) (hw : Basic w) :
    Basic ((loneWord word.1).replaceAll word.2 w) ∧ ((loneWord word.1).replaceAll word.2 w).length = w.length := by
  have hall : ∀ word ∈ constants, word.1.toList ≠ [] ∧ word.2.length = word.1.toList.length ∧
      word.2.all isBasicWord := by decide
  obtain ⟨hne, hlen, hnew⟩ := hall word hword
  rw [(fixed_loneWord hne).replaceAll_eq_scan]
  refine ⟨fun c hc => (mem_scan hc).elim (hw c) (all_eq_true.mp hnew c), ?_⟩
  exact length_scan (length_pos_iff.mpr hne) hlen fun _ _ h => (loneHits_iff.mp h).2.1.length_le

theorem isWord_of_isBasicWord (h : isBasicWord c) : isWord c := by
  have hlow : c.toNat < 128 := by
    simp only [isBasicWord, Bool.or_eq_true, beq_iff_eq] at h
    rcases h with hother | rfl
    · rcases (Bool.or_eq_true _ _).mp hother with hletter | hdigit
      · rcases (Bool.or_eq_true _ _).mp hletter with hupper | hlower
        · exact Nat.lt_of_le_of_lt (of_decide_eq_true hupper).2 (by decide)
        · exact Nat.lt_of_le_of_lt (of_decide_eq_true ((Bool.and_eq_true _ _).mp hlower).2) (by decide)
      · exact Nat.lt_of_le_of_lt (of_decide_eq_true ((Bool.and_eq_true _ _).mp hdigit).2) (by decide)
    · decide
  rw [isWord, if_pos hlow, h]

theorem replaceAll_not {d : Char} (hd : isBasicWord d) (hw : '!' ∉ w) :
    (Pattern.all [.str "!", .group 1 (.one .word)]).replaceAll " not " ("(!" ++ d :: w) = "( not " ++ w := by
  have hrest : scan notHits 2 " not " (some d) 0 w = w := by
    refine scan_eq_self fun prev u hu => ?_
    rw [← Bool.not_eq_true]
    intro h
    obtain ⟨e, rest, rfl, -⟩ := notHits_iff.mp h
    exact hw (hu.subset mem_cons_self)
  have hhit : notHits (some '(') ('!' :: d :: w) := notHits_iff.mpr ⟨d, w, rfl, isWord_of_isBasicWord hd⟩
  have hmiss : notHits none ('(' :: '!' :: d :: w) = false := rfl
  have hstart : "(!" ++ d :: w = '(' :: '!' :: d :: w := rfl
  rw [fixed_not.replaceAll_eq_scan, hstart, scan, if_neg (by simp [hmiss]), scan, if_pos hhit]
  simp only [scan, hrest]
  rfl

/-! ### All operators -/

theorem convertConstants_basic (hw : Basic w) :
    Basic (convertConstants w) ∧ (convertConstants w).length = w.length := by
  have hstep : ∀ word ∈ constants, ∀ w, Basic w → Basic ((loneWord word.1).replaceAll word.2 w) ∧
      ((loneWord word.1).replaceAll word.2 w).length = w.length := fun word hword w => replaceAll_constant_basic hword
  simp only [constants, forall_mem_cons] at hstep
  obtain ⟨hfirst, hlen₁⟩ := hstep.1 w hw
  obtain ⟨hsecond, hlen₂⟩ := hstep.2.1 _ hfirst
  obtain ⟨hthird, hlen₃⟩ := hstep.2.2.1 _ hsecond
  exact ⟨hthird, hlen₃.trans (hlen₂.trans hlen₁)⟩

theorem convertConstants_eq_self (h : ∀ word ∈ constants, (loneWord word.1).found w = false) :
    convertConstants w = w := by
  have hkept : ∀ word ∈ constants, (loneWord word.1).replaceAll word.2 w = w := fun word hword => by
    rw [replaceAll, replaceBy, occurrences_of_not_found (h word hword)]
    rfl
  simp only [constants, forall_mem_cons] at hkept
  simp only [convertConstants, constants, foldl_cons, foldl_nil, hkept.1, hkept.2.1, hkept.2.2.1]

/-- The operators are the constants and fixed texts, and the sign for negation among the latter. -/
theorem convertOperators_negation (hne : w ≠ []) (hw : Basic w) :
    convertOperators ("(!" ++ (w ++ [')'])) = "( not " ++ ((convertConstants w).tail ++ [')']) := by
  obtain ⟨hbasic, hlen⟩ := convertConstants_basic hw
  obtain ⟨d, rest, hcons⟩ : ∃ d rest, convertConstants w = d :: rest := by
    refine exists_cons_of_ne_nil fun hnil => hne ?_
    rwa [hnil, length_nil, eq_comm, length_eq_zero_iff] at hlen
  have htail : (convertConstants w).tail = rest := by
    rw [hcons]
    rfl
  rw [hcons] at hbasic
  have hrest : Basic rest := fun c hc => hbasic c (mem_cons_of_mem d hc)
  have hsign : '!' ∉ rest ++ [')'] := by
    simp only [mem_append, mem_singleton, not_or]
    exact ⟨fun h => absurd (hrest '!' h) (by decide), by decide⟩
  have hnot := replaceAll_not (hbasic d mem_cons_self) hsign
  have hconstants : ∀ word ∈ constants, ∀ w, (loneWord word.1).replaceAll word.2 ("(!" ++ (w ++ [')'])) =
      "(!" ++ ((loneWord word.1).replaceAll word.2 w ++ [')']) := fun word hword w => replaceAll_constant hword w
  simp only [constants, forall_mem_cons] at hconstants
  simp only [convertConstants, constants, foldl_cons, foldl_nil] at hcons
  rw [htail]
  simp only [convertOperators, operators, foldl_cons, foldl_nil]
  rw [replaceAll_foreign (by decide) hw, replaceAll_foreign (by decide) hw, replaceAll_foreign (by decide) hw,
    replaceAll_foreign (by decide) hw, replaceAll_foreign (by decide) hw, hconstants.1, hconstants.2.1,
    hconstants.2.2.1, hcons, replaceAll_foreign (by decide) hbasic, cons_append, hnot,
    replaceAll_foreign (by decide) hrest, replaceEach_cons,
    replace_of_not_occurs (by decide) (not_infix_of_foreign (by decide) hrest), replaceEach_cons,
    replace_of_not_occurs (by decide) (not_infix_of_foreign (by decide) hrest)]
  rfl

/-- The negation of a name loses the first character of the name, after the constants in the name are converted. So no
name is kept, and a name without constants is written without its first character. -/
theorem negation_drops_first (w : Text) (hne : w ≠ []) (hw : Basic w) :
    convertOperators ("(!" ++ (w ++ [')'])) = "( not " ++ ((convertConstants w).tail ++ [')']) ∧
      convertOperators ("(!" ++ (w ++ [')'])) ≠ "( not " ++ (w ++ [')']) ∧
      ((∀ word ∈ constants, (loneWord word.1).found w = false) →
        convertOperators ("(!" ++ (w ++ [')'])) = "( not " ++ (w.tail ++ [')'])) := by
  have heq := convertOperators_negation hne hw
  refine ⟨heq, fun h => ?_, fun h => by rw [heq, convertConstants_eq_self h]⟩
  have hpos : 0 < w.length := length_pos_iff.mpr hne
  have hlen := congrArg length (append_cancel_right (append_cancel_left (heq.symm.trans h)))
  rw [length_tail, (convertConstants_basic hw).2] at hlen
  omega

theorem negated_name_cut : convertOperators ("(!" ++ ("done" ++ [')'])) = "( not one)" :=
  (negation_drops_first "done" (by decide) (all_eq_true.mp (by decide))).2.2 (by decide)

end Geoscript.Script
