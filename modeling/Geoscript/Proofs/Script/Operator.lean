import Geoscript.Proofs.Pattern.Scan
import Geoscript.Script.Operator

/-! Operators and quotes. The replacement of operators takes no notice of quotes, but a quote or a space keeps what
stands on its two sides apart (`convertOperators_mild`). All operators are scans (`Tame.mild`). -/

namespace Geoscript.Script
open List Text Pattern
variable {t old new : Text} {hit : Option Char → Text → Bool} {n : Nat} {f g : Text → Text} {c : Char}

/-- The characters that are neither blank nor part of a name in a statement. -/
def signs : List Char :=
  ['"', '\'', '\\', '\n', '.', '(', ')', '{', '}', '+', '-', '*', '/', '!', '|', '#', ';', ':', '=']

def Free (t : Text) : Prop :=
  ∀ c ∈ signs, c ∉ t

/-- A text that can stand in quotes as it is: no quote, no backslash and no line break. -/
def Quotable (t : Text) : Prop :=
  '"' ∉ t ∧ '\'' ∉ t ∧ '\\' ∉ t ∧ '\n' ∉ t

def droppable (c : Char) : Bool :=
  c == ';' || c == '}' || c == '*'

instance : Decidable (Free t) :=
  decidable_of_iff (signs.all (fun c => !t.contains c)) (by simp [Free])

instance : Decidable (Quotable t) :=
  inferInstanceAs (Decidable (_ ∧ _ ∧ _ ∧ _))

theorem Free.of_mem {u : Text} (ht : Free t) (hu : ∀ c ∈ signs, c ∈ u → c ∈ t) : Free u :=
  fun c hc hmem => ht c hc (hu c hc hmem)

theorem Quotable.of_mem {u : Text} (ht : Quotable t) (hnew : Quotable new) (hu : ∀ c ∈ u, c ∈ t ∨ c ∈ new) :
    Quotable u :=
  ⟨fun h => (hu _ h).elim ht.1 hnew.1, fun h => (hu _ h).elim ht.2.1 hnew.2.1,
    fun h => (hu _ h).elim ht.2.2.1 hnew.2.2.1, fun h => (hu _ h).elim ht.2.2.2 hnew.2.2.2⟩

/-- A pass that works on the two sides of a space or of a double quote for itself, brings no sign into a text
without signs, no quote into a text without quotes, and keeps the number of droppable characters. -/
structure Mild (f : Text → Text) : Prop where
  cut : ∀ c, c = ' ' ∨ c = '"' → ∀ a b, f (a ++ c :: b) = f a ++ c :: f b
  free : ∀ t, Free t → Free (f t)
  quotable : ∀ t, Quotable t → Quotable (f t)
  count : ∀ t, (f t).countP droppable = t.countP droppable

theorem Mild.comp (hf : Mild f) (hg : Mild g) : Mild fun t => g (f t) where
  cut c hc a b := by rw [hf.cut c hc, hg.cut c hc]
  free t ht := hg.free _ (hf.free t ht)
  quotable t ht := hg.quotable _ (hf.quotable t ht)
  count t := (hg.count _).trans (hf.count t)

theorem Mild.id : Mild fun t => t where
  cut _ _ _ _ := rfl
  free _ ht := ht
  quotable _ ht := ht
  count _ := rfl

/-! ### Scans -/

/-- A scan whose hits do not go over a space or a double quote. Its hits have no droppable character; they
have a sign if the new text has one. -/
structure Tame (hit : Option Char → Text → Bool) (n : Nat) (new : Text) : Prop where
  pos : 0 < n
  cuts : ∀ c, c = ' ' ∨ c = '"' → Cuts hit n c
  plain : ∀ prev u, hit prev u → (u.take n).countP droppable = 0
  signed : (∃ d ∈ signs, ∀ prev u, hit prev u → d ∈ u) ∨ Free new
  quotable : Quotable new
  undropped : new.countP droppable = 0

theorem Tame.mild (h : Tame hit n new) : Mild (scan hit n new none 0) where
  cut c hc a b := scan_append_cons (h.cuts c hc) (Nat.zero_le _)
  free t ht := by
    rcases h.signed with ⟨d, hd, hhit⟩ | hnew
    · rw [scan_eq_self]
      · exact ht
      · intro prev u hu
        rw [← Bool.not_eq_true]
        exact fun h => ht d hd (hu.subset (hhit prev u h))
    · exact ht.of_mem fun c hc hmem => (mem_scan hmem).resolve_right (hnew c hc)
  quotable t ht := ht.of_mem h.quotable fun c hc => mem_scan hc
  count t := by
    rw [countP_scan h.pos h.undropped h.plain, drop_zero]

def tameText (old new : Text) : Bool :=
  old ≠ [] && ' ' ∉ old && '"' ∉ old && old.countP droppable == 0 && new.countP droppable == 0 &&
    Quotable new && (signs.any old.contains || Free new)

theorem Tame.of_text (h : tameText old new) (hpre : ∀ prev u, hit prev u → old <+: u)
    (hcuts : ∀ c, c ∉ old → c = ' ' ∨ c = '"' → Cuts hit old.length c) : Tame hit old.length new := by
  simp only [tameText, Bool.and_eq_true, Bool.or_eq_true, decide_eq_true_eq, beq_iff_eq, any_eq_true,
    contains_iff_mem] at h
  obtain ⟨⟨⟨⟨⟨⟨hold, hspace⟩, hquote⟩, hplain⟩, hundropped⟩, hquotable⟩, hsigned⟩ := h
  refine ⟨length_pos_iff.mpr hold, ?_, ?_, ?_, hquotable, hundropped⟩
  · rintro c (rfl | rfl)
    · exact hcuts _ hspace (.inl rfl)
    · exact hcuts _ hquote (.inr rfl)
  · intro prev u hu
    rw [← prefix_iff_eq_take.mp (hpre prev u hu), hplain]
  · refine hsigned.imp_left ?_
    rintro ⟨d, hd, hmem⟩
    exact ⟨d, hd, fun prev u hu => (hpre prev u hu).subset hmem⟩

theorem ne_nil_of_tameText (h : tameText old new) : old ≠ [] := by
  rintro rfl
  cases h

theorem tame_hitsOf (h : tameText old new) : Tame (hitsOf old) old.length new :=
  .of_text h (fun _ _ hu => isPrefixOf_iff_prefix.mp hu)
    fun _ hc _ => cuts_hitsOf (ne_nil_of_tameText h) hc

theorem mild_replace (h : tameText old new) : Mild (replace old new) := by
  have hscan : replace old new = scan (hitsOf old) old.length new none 0 :=
    funext fun _ => replace_eq_scan (ne_nil_of_tameText h)
  rw [hscan]
  exact (tame_hitsOf h).mild

theorem Tame.mild_replaceAll {p : Pattern} (h : Tame hit n new) (hp : p.Fixed hit n) : Mild (p.replaceAll new) := by
  have hscan : p.replaceAll new = scan hit n new none 0 := funext fun t => hp.replaceAll_eq_scan new t
  rw [hscan]
  exact h.mild

/-! ### The operators -/

def wordLetters : CharSet :=
  ⟨[.range 'a' 'z', .range 'A' 'Z'], false⟩

def loneHits (w : Text) : Option Char → Text → Bool :=
  fun prev t => !prev.any wordLetters.has && w.isPrefixOf t && !(t.drop w.length).head?.any wordLetters.has

theorem loneHits_iff {w : Text} {prev : Option Char} : loneHits w prev t ↔
    prev.any wordLetters.has = false ∧ w <+: t ∧ (t.drop w.length).head?.any wordLetters.has = false := by
  simp only [loneHits, Bool.and_eq_true, Bool.not_eq_true', isPrefixOf_iff_prefix, and_assoc]

theorem loneWord_eq (s : String) : loneWord s =
    .seq (.notBehind (.one wordLetters)) (.seq (.lit s.toList) (.notAhead (.one wordLetters))) :=
  rfl

theorem fixed_loneWord {s : String} (hs : s.toList ≠ []) : (loneWord s).Fixed (loneHits s.toList) s.toList.length := by
  refine .of_matcher (length_pos_iff.mpr hs) (fun _ t h => (loneHits_iff.mp h).2.1.length_le) fun calls c =>
    ⟨[], fun k => ?_⟩
  simp only [loneWord_eq, matcher_seq, matcher_notBehind, matcher_lit, matcher_notAhead]
  by_cases h : loneHits s.toList c.before.head? c.after
  · obtain ⟨hbehind, hword, hahead⟩ := loneHits_iff.mp h
    rw [if_pos h, ← prefix_iff_eq_take.mp hword, if_pos (List.isPrefixOf_iff_prefix.mpr hword), hbehind, hahead]
    rfl
  · rw [if_neg h]
    split
    · rfl
    · next hbehind =>
      split
      · next hword =>
        split
        · rfl
        · next hahead =>
          rw [Bool.not_eq_true] at hbehind hahead
          exact absurd (loneHits_iff.mpr ⟨hbehind, isPrefixOf_iff_prefix.mp hword, hahead⟩) h
      · rfl

theorem cuts_loneHits {w : Text} (hw : w ≠ []) (hc : c ∉ w) (hletter : wordLetters.has c = false) :
    Cuts (loneHits w) w.length c where
  border prev a b _ := by
    rw [Bool.eq_iff_iff, loneHits_iff, loneHits_iff]
    refine and_congr_right fun _ => ?_
    constructor
    · rintro ⟨hpre, hnext⟩
      have hpre := prefix_of_prefix_append_cons hc hpre
      rw [drop_append_of_le_length hpre.length_le] at hnext
      refine ⟨hpre, ?_⟩
      cases hrest : a.drop w.length with
      | nil => rfl
      | cons d rest => rwa [hrest] at hnext
    · rintro ⟨hpre, hnext⟩
      refine ⟨hpre.trans (prefix_append a _), ?_⟩
      rw [drop_append_of_le_length hpre.length_le]
      cases hrest : a.drop w.length with
      | nil => exact hletter
      | cons d rest => rwa [hrest] at hnext
  miss prev b := by
    rw [← Bool.not_eq_true, loneHits_iff]
    rintro ⟨-, hpre, -⟩
    have hmiss := (cuts_hitsOf hw hc).miss prev b
    rw [hitsOf, isPrefixOf_iff_prefix.mpr hpre] at hmiss
    cases hmiss
  fresh t := by
    simp [loneHits, hletter]
  room _ t h := (loneHits_iff.mp h).2.1.length_le

theorem tame_loneHits (h : tameText old new) : Tame (loneHits old) old.length new := by
  refine .of_text h (fun _ _ hu => (loneHits_iff.mp hu).2.1) ?_
  rintro c hc (rfl | rfl)
  · exact cuts_loneHits (ne_nil_of_tameText h) hc rfl
  · exact cuts_loneHits (ne_nil_of_tameText h) hc rfl

/-- The hits of the sign for negation: it stands before a word character. -/
def notHits : Option Char → Text → Bool :=
  fun _ t => t.head? == some '!' && (t.drop 1).head?.any isWord

theorem has_word (c : Char) : CharSet.word.has c = isWord c := by
  simp [CharSet.has, CharSet.word, CharClass.covers]

theorem notHits_iff {prev : Option Char} : notHits prev t ↔ ∃ d rest, t = '!' :: d :: rest ∧ isWord d := by
  constructor
  · intro h
    rw [notHits, Bool.and_eq_true, beq_iff_eq] at h
    obtain ⟨hhead, hword⟩ := h
    match t, hhead, hword with
    | _ :: d :: rest, rfl, hword => exact ⟨d, rest, rfl, hword⟩
  · rintro ⟨d, rest, rfl, hword⟩
    exact hword

theorem fixed_not : (Pattern.all [.str "!", .group 1 (.one .word)]).Fixed notHits 2 := by
  refine .of_matcher (by decide) ?_ ?_
  · intro _ t h
    obtain ⟨d, rest, rfl, -⟩ := notHits_iff.mp h
    simp
  · intro calls c
    refine ⟨[(1, ⟨⟨'!' :: c.before, c.after.drop 1, c.pos + 1⟩, c.pos + 2⟩)], fun k => ?_⟩
    have hlit : "!" = ['!'] := rfl
    simp only [Pattern.all, Pattern.str, matcher_seq, matcher_lit, matcher_group, hlit]
    obtain ⟨before, after, pos⟩ := c
    by_cases h : notHits before.head? after
    · obtain ⟨d, rest, rfl, hword⟩ := notHits_iff.mp h
      have hpre : ['!'].isPrefixOf ('!' :: d :: rest) := rfl
      dsimp only
      rw [if_pos h, if_pos hpre, matcher_one calls .word rfl, has_word, if_pos hword]
      rfl
    · rw [if_neg h]
      split
      · next hpre =>
        obtain ⟨rest, rfl⟩ := isPrefixOf_iff_prefix.mp hpre
        cases rest with
        | nil => rfl
        | cons d rest =>
          rw [matcher_one calls .word rfl, has_word, if_neg]
          exact fun hword => h (notHits_iff.mpr ⟨d, rest, rfl, hword⟩)
      · rfl

theorem cuts_notHits (hsign : c ≠ '!') (hword : isWord c = false) : Cuts notHits 2 c where
  border _ a b ha := by
    match a with
    | [d] => simp [notHits, hword]
    | d :: e :: rest => rfl
  miss _ b := by
    simp [notHits, hsign]
  fresh _ := rfl
  room _ t h := by
    obtain ⟨d, rest, rfl, -⟩ := notHits_iff.mp h
    simp

theorem tame_notHits : Tame notHits 2 " not " := by
  refine ⟨by decide, ?_, ?_, .inl ⟨'!', by decide, ?_⟩, by decide, by decide⟩
  · rintro c (rfl | rfl)
    · exact cuts_notHits (by decide) rfl
    · exact cuts_notHits (by decide) rfl
  · intro prev u h
    obtain ⟨d, rest, rfl, hword⟩ := notHits_iff.mp h
    have hd : droppable d = false := by
      rw [← Bool.not_eq_true, droppable]
      simp only [Bool.or_eq_true, beq_iff_eq]
      rintro ((rfl | rfl) | rfl) <;> exact absurd hword (by decide)
    have hsign : droppable '!' = false := by decide
    simp [hd, hsign]
  · intro prev u h
    obtain ⟨d, rest, rfl, -⟩ := notHits_iff.mp h
    exact mem_cons_self

theorem mild_lit {s : String} (h : tameText s.toList new) : Mild ((Pattern.str s).replaceAll new) :=
  (tame_hitsOf h).mild_replaceAll (fixed_lit (ne_nil_of_tameText h))

theorem mild_loneWord {s : String} (h : tameText s.toList new) : Mild ((loneWord s).replaceAll new) :=
  (tame_loneHits h).mild_replaceAll (fixed_loneWord (ne_nil_of_tameText h))

theorem mild_operators : ∀ o ∈ operators, Mild (o.1.replaceAll o.2) := by
  simp only [operators, forall_mem_cons]
  exact ⟨mild_lit rfl, mild_lit rfl, mild_lit rfl, mild_lit rfl,
    mild_lit rfl, mild_loneWord rfl, mild_loneWord rfl, mild_loneWord rfl,
    mild_lit rfl, tame_notHits.mild_replaceAll fixed_not, mild_lit rfl, forall_mem_nil _⟩

theorem mild_foldl {α : Type} {step : Text → α → Text} {xs : List α} (h : ∀ x ∈ xs, Mild fun t => step t x) :
    Mild fun t => xs.foldl step t := by
  induction xs with
  | nil => exact Mild.id
  | cons x xs ih =>
    rw [forall_mem_cons] at h
    exact h.1.comp (ih h.2)

theorem mild_convertOperators : Mild convertOperators := by
  have hurls : Mild (replaceEach [("https:#", "https://"), ("http:#", "http://")]) :=
    mild_foldl (forall_mem_cons.mpr ⟨mild_replace rfl, forall_mem_cons.mpr ⟨mild_replace rfl, forall_mem_nil _⟩⟩)
  have heq : convertOperators = fun t => replaceEach _ (operators.foldl (fun t o => o.1.replaceAll o.2 t) t) := rfl
  rw [heq]
  exact (mild_foldl mild_operators).comp hurls

end Geoscript.Script
