import Geoscript.Proofs.Pattern.Enclosed
import Geoscript.Proofs.Text.Growth
import Geoscript.Script.Comment

/-! Block comments. The text of a comment gets marks behind its line breaks, wherever that text occurs, and then every
opening becomes a mark. `comment_marked_iff` says when this keeps the code around one comment. -/

namespace Geoscript.Script
open List Text Pattern
variable {a b s t o text : Text}

/-- The text of a comment with a mark behind each of its line breaks. -/
def marked (text : Text) : Text :=
  replace ['\n'] "\n#" text

/-! ### Marks -/

/-- The second text is the first one with marks behind some of its line breaks. -/
inductive Marks : Text → Text → Prop
  | nil : Marks [] []
  | keep (c : Char) {s t : Text} : Marks s t → Marks (c :: s) (c :: t)
  | mark {s t : Text} : Marks s t → Marks ('\n' :: s) ('\n' :: '#' :: t)

theorem Marks.refl (t : Text) : Marks t t := by
  induction t with
  | nil => exact .nil
  | cons c t ih => exact .keep c ih

theorem Marks.append {s' t' : Text} (h : Marks s t) (h' : Marks s' t') : Marks (s ++ s') (t ++ t') := by
  induction h with
  | nil => exact h'
  | keep c _ ih => exact .keep c ih
  | mark _ ih => exact .mark ih

theorem marks_marked (text : Text) : Marks text (marked text) := by
  have hold : ['\n'] ≠ [] := cons_ne_nil _ _
  induction text using replace_induction hold with
  | nil => exact .nil
  | hit t ih =>
    rw [marked, replace_append hold]
    exact .mark ih
  | miss c t hpre ih =>
    rw [marked, replace_cons hold hpre]
    exact .keep c ih

theorem marks_replace_text (hne : text ≠ []) (t : Text) : Marks t (replace text (marked text) t) := by
  induction t using replace_induction hne with
  | nil =>
    rw [replace_nil hne]
    exact .nil
  | hit t ih =>
    rw [replace_append hne]
    exact (marks_marked text).append ih
  | miss c t hpre ih =>
    rw [replace_cons hne hpre]
    exact .keep c ih

theorem Marks.prefix_iff (ho : '\n' ∉ o) (h : Marks s t) : o <+: t ↔ o <+: s := by
  induction h generalizing o with
  | nil => exact .rfl
  | keep c _ ih =>
    cases o with
    | nil => simp
    | cons d o =>
      rw [mem_cons, not_or] at ho
      rw [cons_prefix_cons, cons_prefix_cons, ih ho.2]
  | mark _ _ =>
    cases o with
    | nil => simp
    | cons d o =>
      rw [mem_cons, not_or] at ho
      simp [Ne.symm ho.1]

theorem Marks.infix_iff (ho : '\n' ∉ o) (hmark : '#' ∉ o) (h : Marks s t) : o <:+: t ↔ o <:+: s := by
  induction h with
  | nil => exact .rfl
  | keep c hst ih => rw [infix_cons_iff, infix_cons_iff, ih, (Marks.keep c hst).prefix_iff ho]
  | @mark s t hst ih =>
    have hnone : o <+: '#' :: t → o <:+: t := fun hpre => by
      rcases prefix_cons_iff.mp hpre with rfl | ⟨_, rfl, -⟩
      · exact nil_infix
      · exact absurd mem_cons_self hmark
    rw [infix_cons_iff, infix_cons_iff, infix_cons_iff, (Marks.mark hst).prefix_iff ho, ← ih]
    exact or_congr_right ⟨fun h => h.elim hnone id, .inr⟩

theorem marked_eq_self (h : '\n' ∉ text) : marked text = text :=
  replace_of_not_occurs (cons_ne_nil _ _) fun hocc => h (hocc.subset mem_cons_self)

theorem length_lt_marked (h : '\n' ∈ text) : text.length < (marked text).length := by
  have hold : ['\n'] ≠ [] := cons_ne_nil _ _
  obtain ⟨x, y, rfl⟩ := append_of_mem h
  have hlt := (@countP_le_replace ['\n'] "\n#" (x ++ '\n' :: y) (fun _ => true) hold (by decide)).2 (by decide)
    ⟨x, y, by simp⟩
  simpa [marked] using hlt

/-! ### One comment -/

def commented (a text b : Text) : Text :=
  a ++ '/' :: '*' :: (text ++ '*' :: '/' :: b)

theorem markBlockComments_commented (ha : ¬['/', '*'] <:+: a) (htext : ¬['*', '/'] <:+: text)
    (hb : ¬['/', '*'] <:+: b) : markBlockComments (commented a text b) =
      replace ['/', '*'] ['#'] (replace text (marked text) (commented a text b)) := by
  obtain ⟨m, hm, hgroup⟩ := @occurrences_enclosed a ['/', '*'] ['*', '/'] text b (by decide)
    (before_pair (by decide) ha) (before_pair (by decide) htext) hb
  have hm : blockComment.occurrences (commented a text b) = [m] := hm
  simp only [markBlockComments, hm, foldl_cons, foldl_nil, hgroup]
  rfl

theorem replace_opening (ha : ¬['/', '*'] <:+: a) (t : Text) :
    replace ['/', '*'] ['#'] (a ++ '/' :: '*' :: t) = a ++ '#' :: replace ['/', '*'] ['#'] t := by
  have hold : ['/', '*'] ≠ [] := cons_ne_nil _ _
  have hfirst : replace ['/', '*'] ['#'] ('/' :: '*' :: t) = '#' :: replace ['/', '*'] ['#'] t := replace_append hold t
  rw [replace_append_of_border hold, replace_of_not_occurs hold ha, hfirst]
  intro x y hx hy _ hpre heq
  obtain ⟨d, x, rfl⟩ := exists_cons_of_ne_nil hx
  obtain ⟨e, y, rfl⟩ := exists_cons_of_ne_nil hy
  obtain ⟨rfl, -⟩ := cons_prefix_cons.mp hpre
  cases x with
  | nil => simp at heq
  | cons f x => simp at heq

theorem eq_of_prefix_cons_self {c d : Char} (h : t <+: c :: t) (hd : d ∈ t) : d = c := by
  induction t generalizing c with
  | nil => cases hd
  | cons e t ih =>
    obtain ⟨rfl, hrest⟩ := cons_prefix_cons.mp h
    rcases mem_cons.mp hd with rfl | hd
    · rfl
    · exact ih hrest hd

theorem replace_commented (hline : '\n' ∈ text) (hopen : ¬['/', '*'] <:+: text ++ '*' :: '/' :: b) (new : Text) :
    replace text new (commented a text b) =
      replace text new a ++ '/' :: '*' :: (new ++ replace text new ('*' :: '/' :: b)) := by
  have hne : text ≠ [] := ne_nil_of_mem hline
  have hstart : ¬text <+: '/' :: '*' :: (text ++ '*' :: '/' :: b) := by
    intro h
    rcases prefix_cons_iff.mp h with rfl | ⟨u, rfl, hu⟩
    · exact hne rfl
    rcases prefix_cons_iff.mp hu with rfl | ⟨v, rfl, -⟩
    · simp at hline
    · exact hopen ⟨[], v ++ '*' :: '/' :: b, rfl⟩
  have hsecond : ¬text <+: '*' :: (text ++ '*' :: '/' :: b) := by
    intro h
    have hself : text <+: '*' :: text := prefix_of_prefix_length_le h ⟨'*' :: '/' :: b, rfl⟩ (Nat.le_succ _)
    exact absurd (eq_of_prefix_cons_self hself hline) (by decide)
  have hborder : replace text new (commented a text b) =
      replace text new a ++ replace text new ('/' :: '*' :: (text ++ '*' :: '/' :: b)) := by
    refine replace_append_of_border hne fun x y _ hy _ hpre heq => ?_
    obtain ⟨d, y, rfl⟩ := exists_cons_of_ne_nil hy
    obtain ⟨rfl, hrest⟩ := cons_prefix_cons.mp hpre
    cases y with
    | nil => exact hopen ⟨x, '/' :: b, by rw [← heq]; simp⟩
    | cons e y =>
      obtain ⟨rfl, -⟩ := cons_prefix_cons.mp hrest
      exact hopen ⟨x, y ++ '*' :: '/' :: b, by rw [← heq]; simp⟩
  rw [hborder, replace_cons hne hstart, replace_cons hne hsecond, replace_append hne]

/-- The comment becomes line comments and the code around it is kept, if and only if there is no second opening and the
text of the comment, if it has a line break, occurs neither before the comment nor behind it. -/
theorem comment_marked_iff (a text b : Text) (ha : ¬['/', '*'] <:+: a) (htext : ¬['*', '/'] <:+: text)
    (hb : ¬['/', '*'] <:+: b) :
    markBlockComments (commented a text b) = a ++ '#' :: (marked text ++ '*' :: '/' :: b) ↔
      ¬['/', '*'] <:+: text ++ '*' :: '/' :: b ∧ ('\n' ∈ text → ¬text <:+: a ∧ ¬text <:+: '*' :: '/' :: b) := by
  have hold : ['/', '*'] ≠ [] := cons_ne_nil _ _
  rw [markBlockComments_commented ha htext hb]
  by_cases hopen : ['/', '*'] <:+: text ++ '*' :: '/' :: b
  · refine iff_of_false (fun h => ?_) fun h => h.1 hopen
    -- All openings are gone afterwards, so there is none behind the mark of the first one.
    have hgone := @not_infix_replace ['/', '*'] (replace text (marked text) (commented a text b)) '#' hold (by decide)
    have hmarks : Marks (text ++ '*' :: '/' :: b) (marked text ++ '*' :: '/' :: b) :=
      (marks_marked text).append (.refl _)
    rw [h] at hgone
    refine hgone (infix_append_of_infix_right (infix_cons ?_))
    exact (hmarks.infix_iff (by decide) (by decide)).mpr hopen
  rw [and_iff_right hopen]
  by_cases hline : '\n' ∈ text
  · have hne : text ≠ [] := ne_nil_of_mem hline
    have hlen := length_lt_marked hline
    have hbefore : ¬['/', '*'] <:+: replace text (marked text) a := by
      rwa [(marks_replace_text hne a).infix_iff (by decide) (by decide)]
    have hbehind : ¬['/', '*'] <:+: marked text ++ replace text (marked text) ('*' :: '/' :: b) := by
      rwa [((marks_marked text).append (marks_replace_text hne _)).infix_iff (by decide) (by decide)]
    rw [replace_commented hline hopen, replace_opening hbefore, replace_of_not_occurs hold hbehind,
      forall_prop_of_true hline, ← replace_eq_self_iff hne hlen, ← replace_eq_self_iff hne hlen]
    constructor
    · intro h
      have hleft := @length_le_replace text (marked text) a hne (Nat.le_of_lt hlen)
      have hright := @length_le_replace text (marked text) ('*' :: '/' :: b) hne (Nat.le_of_lt hlen)
      have htotal := congrArg length h
      simp only [length_append, length_cons] at htotal hright
      obtain ⟨hkept, hrest⟩ := append_inj h (by omega)
      exact ⟨hkept, append_cancel_left (cons.inj hrest).2⟩
    · rintro ⟨hleft, hright⟩
      rw [hleft, hright]
  · have hkept : replace text (marked text) (commented a text b) = commented a text b := by
      rw [marked_eq_self hline, replace_self]
    refine iff_of_true ?_ fun h => absurd h hline
    rw [hkept, commented, replace_opening ha, replace_of_not_occurs hold hopen, marked_eq_self hline]

theorem line_break_marked_before_comment : markBlockComments (commented ['a'] ['\n'] ['b']) = "a#\n#*/b" ∧
      markBlockComments (commented ['a', '\n'] ['\n'] ['b']) ≠ "a\n#\n#*/b" ∧
      markBlockComments (commented ['a', '\n'] ['\n'] ['b']) = "a\n##\n#*/b" := by
  refine ⟨(comment_marked_iff ['a'] ['\n'] ['b'] (by decide) (by decide) (by decide)).mpr (by decide), fun h => ?_,
    by decide +kernel⟩
  have hkept := (comment_marked_iff ['a', '\n'] ['\n'] ['b'] (by decide) (by decide) (by decide)).mp h
  exact (hkept.2 (by decide)).1 (by decide)

end Geoscript.Script
