import Geoscript.Proofs.Pattern.Rebuild
import Geoscript.Proofs.Store.Requirement
import Mathlib.Data.List.Infix

/-! Calls in a text with and without its comments. If no comment starts or ends in a call, what a line requires
without the comments is required by the text with them. -/

namespace Geoscript.Store
open List Text Pattern

variable {a b p r s t u w line text : Text}

abbrev callStart : Text := "require("

/-- Neither a call nor its start goes on over the end of the text. -/
structure Closed (t : Text) : Prop where
  calls : Shut callStart ')' t
  starts : ∀ s, s <:+ t → s <+: callStart → s = []

theorem closed_iff : Closed t ↔ ∀ s ∈ t.tails, (callStart <+: s → ')' ∈ s ∨ '\n' ∈ s) ∧ (s <+: callStart → s = []) := by
  simp only [mem_tails]
  exact ⟨fun h s hs => ⟨h.calls s hs, h.starts s hs⟩, fun h => ⟨fun s hs => (h s hs).1, fun s hs => (h s hs).2⟩⟩

instance (t : Text) : Decidable (Closed t) :=
  decidable_of_iff _ closed_iff.symm

/-- No comment of the text starts or ends in a call. -/
def CommentsApart (text : Text) : Prop :=
  ∀ m ∈ comment.occurrences text, Closed m.start.before.reverse ∧ Closed m.stop.before.reverse

instance (text : Text) : Decidable (CommentsApart text) :=
  inferInstanceAs (Decidable (∀ m ∈ comment.occurrences text, _))

/-! ### Borders -/

theorem callStart_prefix (s b : Text) (hs : s ≠ []) (h : callStart <+: s ++ (callStart ++ b)) : callStart <+: s := by
  have hlast : '(' ∉ "require".toList := by decide
  obtain ⟨rest, hrest⟩ := h
  have hcut : (s ++ "require") ++ '(' :: b = "require" ++ '(' :: rest := by
    rw [append_assoc]
    exact hrest.symm
  rcases cut_eq_or_behind hlast hcut with ⟨heq, -⟩ | ⟨mid, heq, -⟩
  · exact absurd (append_left_eq_self.mp heq) hs
  · obtain ⟨mid', rfl, -⟩ := cut_left hlast heq
    exact ⟨mid', rfl⟩

theorem Closed.nil : Closed [] where
  calls s hs h := by
    rw [suffix_nil.mp hs] at h
    exact absurd (prefix_nil.mp h) (by decide)
  starts s hs _ := suffix_nil.mp hs

theorem Closed.append_shut (hp : Closed p) (ha : Shut callStart ')' a) : Shut callStart ')' (p ++ a) := by
  intro s hs hcall
  rcases suffix_or_suffix_of_suffix hs (suffix_append p a) with hs' | ⟨s', rfl⟩
  · exact ha s hs' hcall
  · have hs' : s' <:+ p := suffix_append_self_iff.mp hs
    rcases prefix_or_prefix_of_prefix hcall (prefix_append s' a) with hpre | hpre
    · exact (hp.calls s' hs' hpre).imp (mem_append_left a) (mem_append_left a)
    · rw [hp.starts s' hs' hpre, nil_append] at hcall ⊢
      exact ha a (suffix_refl a) hcall

theorem Closed.cut (hp : Closed (p ++ u)) (hw : ')' ∉ w) (hline : '\n' ∉ w)
    (h : u ++ r = a ++ (callStart ++ (w ++ ')' :: b))) :
    (∃ front, a = u ++ front ∧ r = front ++ (callStart ++ (w ++ ')' :: b))) ∨
      ∃ back, u = a ++ (callStart ++ (w ++ ')' :: back)) := by
  rcases append_eq_append_iff.mp h with ⟨front, ha, hr⟩ | ⟨back, rfl, hr⟩
  · exact .inl ⟨front, ha, hr⟩
  · have hback : back <:+ p ++ (a ++ back) := (suffix_append a back).trans (suffix_append p _)
    rcases prefix_or_prefix_of_prefix (show callStart <+: back ++ r from ⟨_, hr⟩) (prefix_append back r)
      with hpre | hpre
    · obtain ⟨rest, rfl⟩ :=
        (hp.calls.suffix hback).split (by decide) (by decide) hpre hw hline hr.symm
      exact .inr ⟨rest, rfl⟩
    · obtain rfl := hp.starts back hback hpre
      exact .inl ⟨[], by simp, hr.symm⟩

/-! ### Without comments -/

theorem exists_call_of_rebuild {c : Cursor} {ms : List Match} (h : Laid comment c ms)
    (hc : Closed c.before.reverse)
    (hms : ∀ m ∈ ms, Closed m.start.before.reverse ∧ Closed m.stop.before.reverse)
    (ha : Shut callStart ')' a) (hw : ')' ∉ w) (hline : '\n' ∉ w)
    (hcall : rebuild (fun _ => []) c ms = a ++ (callStart ++ (w ++ ')' :: b))) :
    ∃ front back, c.after = front ++ (callStart ++ (w ++ ')' :: back)) ∧
      Shut callStart ')' (c.before.reverse ++ front) := by
  induction h generalizing a with
  | done c => exact ⟨a, b, hcall, hc.append_shut ha⟩
  | @next c m ms u v depth moving hu hv _ _ ih =>
    obtain ⟨⟨hstart, hstop⟩, hms⟩ := forall_mem_cons.mp hms
    rw [rebuild, hu.upTo, append_nil] at hcall
    rw [hu.before, reverse_append, reverse_reverse] at hstart
    rcases hstart.cut hw hline hcall with ⟨front, rfl, hrest⟩ | ⟨back, hback⟩
    · obtain ⟨front', back, hafter, hshut⟩ := ih hstop hms (ha.suffix (suffix_append u front)) hrest
      refine ⟨u ++ v ++ front', back, ?_, ?_⟩
      · rw [hu.after, hv.after, hafter]
        simp
      · rw [hv.before, hu.before] at hshut
        simpa using hshut
    · refine ⟨a, back ++ m.start.after, ?_, hc.append_shut ha⟩
      rw [hu.after, hback]
      simp

theorem shut_of_line (hfirst : ¬callStart <:+: a) (hp : p = [] ∨ ∃ front, p = front ++ ['\n']) :
    Shut callStart ')' (p ++ a) := by
  intro s hs hcall
  rcases suffix_or_suffix_of_suffix hs (suffix_append p a) with hs' | ⟨s', rfl⟩
  · exact absurd (hcall.isInfix.trans hs'.isInfix) hfirst
  · have hs' : s' <:+ p := suffix_append_self_iff.mp hs
    rcases hp with rfl | ⟨front, rfl⟩
    · rw [suffix_nil.mp hs', nil_append] at hcall
      exact absurd hcall.isInfix hfirst
    · rcases suffix_concat_iff.mp hs' with rfl | ⟨rest, rfl, -⟩
      · exact absurd hcall.isInfix hfirst
      · exact .inr (by simp)

/-- What a line requires without the comments is required by the text, if they are apart from calls. -/
theorem mem_requiredBy_of_requirement? {r : Text × ModuleName} (h : CommentsApart text)
    (hline : line ∈ lines (comment.replaceAll [] text)) (hr : requirement? line = some r) :
    r.2 ∈ requiredBy text := by
  have hnewline : '\n' ∉ line := not_mem_of_mem_fields hline
  rw [requirement?_eq hnewline] at hr
  obtain ⟨v, -, hr⟩ := Option.bind_eq_some_iff.mp hr
  obtain ⟨w, hw, rfl⟩ := Option.map_eq_some_iff.mp hr
  obtain ⟨a, b, rfl, hclosing, hfirst⟩ := between?_eq_some (by decide) hw
  obtain ⟨p, rest, hplain, hp⟩ := exists_of_mem_fields hline
  have hw' : '\n' ∉ w := fun hmem => hnewline (by simp [hmem])
  have hcall : rebuild (fun _ => []) (.start text) (comment.occurrences text) =
      (p ++ a) ++ (callStart ++ (w ++ ')' :: (b ++ rest))) := by
    refine hplain.trans ?_
    simp only [append_assoc, cons_append]
  obtain ⟨front, back, hafter, hshut⟩ := exists_call_of_rebuild (laid_occurrences comment text) Closed.nil h
    (shut_of_line hfirst hp) hclosing hw' hcall
  obtain ⟨m, hm, rfl⟩ : ∃ m ∈ requireCall.occurrences text, m.group 1 = w := by
    rw [show text = front ++ (callStart ++ (w ++ ')' :: back)) from hafter]
    exact exists_mem_occurrences_between (by decide) (by decide) callStart_prefix hclosing hw' hshut
  exact mem_map_of_mem hm

end Geoscript.Store
