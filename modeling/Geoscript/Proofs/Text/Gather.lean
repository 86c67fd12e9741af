import Geoscript.Proofs.Text.Fields
import Geoscript.Proofs.Text.Replace

/-! Lines that are marked are written together with the line behind them (`gather`). The text loses the line breaks
between them and nothing else (`joined_gather`). -/

namespace Geoscript.Text
open List

/-- The second text is the first one with some line breaks left out. -/
inductive Joined : Text → Text → Prop where
  | nil : Joined [] []
  | keep (c : Char) {t r : Text} (h : Joined t r) : Joined (c :: t) (c :: r)
  | leaveOut {t r : Text} (h : Joined t r) : Joined ('\n' :: t) r

namespace Joined
variable {s t r : Text}

theorem refl (t : Text) : Joined t t := by
  induction t with
  | nil => exact .nil
  | cons c t ih => exact .keep c ih

theorem trans (h : Joined s t) (h' : Joined t r) : Joined s r := by
  induction h generalizing r with
  | nil => exact h'
  | keep c _ ih =>
    cases h' with
    | keep _ h' => exact .keep c (ih h')
    | leaveOut h' => exact .leaveOut (ih h')
  | leaveOut _ ih => exact .leaveOut (ih h')

theorem append_left (l : Text) (h : Joined t r) : Joined (l ++ t) (l ++ r) := by
  induction l with
  | nil => exact h
  | cons c l ih => exact .keep c ih

end Joined

theorem length_replace {old new : Text} (hold : old ≠ []) (hlen : new.length = old.length) (t : Text) :
    (replace old new t).length = t.length := by
  induction t using replace_induction hold with
  | nil => rw [replace_nil hold]
  | hit t ih => rw [replace_append hold, length_append, length_append, ih, hlen]
  | miss c t hpre ih => rw [replace_cons hold hpre, length_cons, length_cons, ih]

/-! ### Gathering lines -/

/-- The lines of which those that are marked are written together with the line behind them. -/
def gather : List Bool → List Text → List Text
  | mark :: marks, line :: next :: rest =>
    match gather marks (next :: rest) with
    | [] => [line]
    | new :: others => if mark then (line ++ new) :: others else line :: new :: others
  | _, ls => ls

variable {mark : Bool} {marks : List Bool} {line next : Text} {ls : List Text}

theorem gather_ne_nil (h : ls ≠ []) : gather marks ls ≠ [] := by
  unfold gather
  split
  · split
    · exact cons_ne_nil _ _
    · split <;> exact cons_ne_nil _ _
  · exact h

theorem gather_cons (mark : Bool) (marks : List Bool) (line next : Text) (ls : List Text) :
    ∃ new others, gather marks (next :: ls) = new :: others ∧ gather (mark :: marks) (line :: next :: ls) =
        if mark then (line ++ new) :: others else line :: new :: others := by
  obtain ⟨new, others, hgather⟩ := exists_cons_of_ne_nil (@gather_ne_nil marks _ (cons_ne_nil next ls))
  exact ⟨new, others, hgather, by rw [gather, hgather]⟩

theorem unlines_append_head (line new : Text) (others : List Text) :
    unlines ((line ++ new) :: others) = line ++ unlines (new :: others) := by
  cases others with
  | nil => rfl
  | cons other others => simp [unlines, join]

theorem unlines_lines_eq (t : Text) : unlines (lines t) = t :=
  join_fields '\n' t

theorem joined_gather (marks : List Bool) (ls : List Text) : Joined (unlines ls) (unlines (gather marks ls)) := by
  induction marks generalizing ls with
  | nil => exact .refl _
  | cons mark marks ih =>
    match ls with
    | [] => exact .refl _
    | [line] => exact .refl _
    | line :: next :: ls =>
      obtain ⟨new, others, hrest, hgather⟩ := gather_cons mark marks line next ls
      have hjoined : Joined (unlines (next :: ls)) (unlines (new :: others)) := hrest ▸ ih (next :: ls)
      have hlines (other : Text) (rest : List Text) : unlines (line :: other :: rest) =
          line ++ '\n' :: unlines (other :: rest) := by
        simp [unlines, join]
      rw [hgather, hlines]
      cases mark with
      | true =>
        rw [if_pos rfl, unlines_append_head]
        exact .append_left line (.leaveOut hjoined)
      | false =>
        rw [if_neg Bool.false_ne_true, hlines]
        exact .append_left line (.keep '\n' hjoined)

theorem not_mem_gather {c : Char} (h : ∀ l ∈ ls, c ∉ l) : ∀ l ∈ gather marks ls, c ∉ l := by
  induction marks generalizing ls with
  | nil => exact h
  | cons mark marks ih =>
    match ls with
    | [] => exact h
    | [_] => exact h
    | line :: next :: ls =>
      obtain ⟨new, others, hrest, hgather⟩ := gather_cons mark marks line next ls
      rw [forall_mem_cons] at h
      have hothers := ih h.2
      rw [hrest, forall_mem_cons] at hothers
      rw [hgather]
      cases mark with
      | true => exact forall_mem_cons.mpr ⟨by simp [h.1, hothers.1], hothers.2⟩
      | false => exact forall_mem_cons.mpr ⟨h.1, forall_mem_cons.mpr hothers⟩

theorem gather_dropLast {marks : List Bool} {ls : List Text} (h : marks.length = ls.length) :
    gather marks.dropLast ls = gather marks ls := by
  match marks, ls with
  | [], _ => rfl
  | _ :: _, [] => cases h
  | [_], [_] => rfl
  | [_], _ :: _ :: _ => cases h
  | _ :: _ :: _, [_] => cases h
  | mark :: mark' :: marks, l :: m :: ls =>
    rw [dropLast_cons_cons, gather, gather, gather_dropLast (Nat.succ.inj h)]

theorem gather_of_unmarked (p : Text → Bool) {ls : List Text} (h : ls.any p = false) : gather (ls.map p) ls = ls := by
  match ls with
  | [] => rfl
  | [_] => rfl
  | l :: m :: ls =>
    rw [any_cons, Bool.or_eq_false_iff] at h
    obtain ⟨new, others, hrest, hgather⟩ := gather_cons (p l) ((m :: ls).map p) l m ls
    rw [gather_of_unmarked p h.2] at hrest
    rw [map_cons, hgather, h.1, if_neg Bool.false_ne_true, hrest]

theorem gather_eq_or_lt (marks : List Bool) (ls : List Text) :
    gather marks ls = ls ∨ (gather marks ls).length < ls.length := by
  induction marks generalizing ls with
  | nil => exact .inl rfl
  | cons mark marks ih =>
    match ls with
    | [] => exact .inl rfl
    | [line] => exact .inl rfl
    | line :: next :: ls =>
      obtain ⟨new, others, hrest, hgather⟩ := gather_cons mark marks line next ls
      have hshorter := ih (next :: ls)
      rw [hrest] at hshorter
      rw [hgather]
      cases mark with
      | true =>
        refine .inr ?_
        rcases hshorter with heq | hlt
        · obtain ⟨rfl, rfl⟩ := cons.inj heq
          simp
        · simp only [if_true, length_cons] at hlt ⊢
          omega
      | false => exact hshorter.imp (congrArg (line :: ·)) Nat.succ_lt_succ

theorem length_gather_lt {p : Text → Bool} (h : line ∈ ls.dropLast) (hp : p line) :
    (gather (ls.map p) ls).length < ls.length := by
  induction ls with
  | nil => cases h
  | cons first ls ih =>
    cases ls with
    | nil => cases h
    | cons next ls =>
      obtain ⟨new, others, hrest, hgather⟩ := gather_cons (p first) ((next :: ls).map p) first next ls
      have hle : others.length ≤ ls.length := by
        have hcases := gather_eq_or_lt ((next :: ls).map p) (next :: ls)
        rw [hrest] at hcases
        rcases hcases with heq | hlt
        · exact Nat.le_of_eq (congrArg length (cons.inj heq).2)
        · simp only [length_cons] at hlt
          omega
      rw [map_cons, hgather]
      rw [dropLast_cons_cons, mem_cons] at h
      rcases h with rfl | h
      · rw [hp, if_pos rfl]
        simp only [length_cons]
        omega
      · have hlt := ih h
        rw [hrest] at hlt
        cases p first <;> simp only [if_true, Bool.false_eq_true, if_false, length_cons] at hlt ⊢ <;> omega

end Geoscript.Text
