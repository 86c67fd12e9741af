import Geoscript.Proofs.Text.Replace

/-! Replacing in a weave of gaps and pieces. If no occurrence lies in a gap or goes over from a gap into a piece, and
pieces and old text have one closing character, a replacement takes place inside of the pieces (`replace_weave`). -/

namespace Geoscript.Text
open List
variable {old new a b p q : Text} {c : Char}

/-- Gaps with a piece after each of them, and a last gap. -/
def weave : List (Text × Text) → Text → Text
  | [], last => last
  | (gap, piece) :: parts, last => gap ++ piece ++ weave parts last

def ClosedBy (c : Char) (t : Text) : Prop :=
  ∃ u, c ∉ u ∧ t = u ++ [c]

/-- What becomes of a piece when `old` is replaced: only its end can be the old text. -/
def settle (old new p : Text) : Text :=
  if old.isSuffixOf p then p.take (p.length - old.length) ++ new else p

/-! ### Texts with one closing character -/

theorem ClosedBy.ne_nil (h : ClosedBy c p) : p ≠ [] := by
  obtain ⟨u, -, rfl⟩ := h
  simp

theorem ClosedBy.mem (h : ClosedBy c p) : c ∈ p := by
  obtain ⟨u, -, rfl⟩ := h
  simp

theorem ClosedBy.eq_of_prefix (h : ClosedBy c p) (hc : c ∈ a) (hpre : a <+: p) : a = p := by
  obtain ⟨u, hu, rfl⟩ := h
  rcases prefix_concat_iff.mp hpre with heq | hpre
  · rw [heq]
  · exact absurd (hpre.subset hc) hu

theorem ClosedBy.of_append (h : ClosedBy c (a ++ b)) (hb : b ≠ []) : c ∉ a ∧ ClosedBy c b := by
  obtain ⟨u, hu, hab⟩ := h
  obtain ⟨v, d, rfl⟩ : ∃ v d, b = v ++ [d] := ⟨_, _, (dropLast_concat_getLast hb).symm⟩
  rw [← append_assoc] at hab
  obtain ⟨rfl, hd⟩ := append_inj' hab rfl
  rw [mem_append, not_or] at hu
  exact ⟨hu.1, v, hu.2, by rw [cons.inj hd |>.1]⟩

theorem ClosedBy.eq_of_prefix_append (hp : ClosedBy c p) (ha : ClosedBy c a) (h : a <+: p ++ b) : a = p := by
  obtain ⟨u, hu, rfl⟩ := hp
  obtain ⟨v, hv, rfl⟩ := ha
  obtain ⟨e, he⟩ := h
  have he' : v ++ c :: e = u ++ c :: b := by
    simpa using he
  rcases cut_eq_or_behind hu he' with ⟨rfl, -⟩ | ⟨mid, rfl, -⟩
  · rfl
  · simp at hv

/-! ### One replacement -/

theorem replace_append_of_border (hold : old ≠ [])
    (h : ∀ x y, x ≠ [] → y ≠ [] → x <:+ a → y <+: b → x ++ y ≠ old) :
    replace old new (a ++ b) = replace old new a ++ replace old new b := by
  induction a using replace_induction hold with
  | nil => rw [replace_nil hold, nil_append, nil_append]
  | hit t ih =>
    rw [append_assoc, replace_append hold, replace_append hold, append_assoc, ih]
    exact fun x y hx hy hxs hyp => h x y hx hy (hxs.trans (suffix_append _ _)) hyp
  | miss d t hpre ih =>
    have hmiss : ¬old <+: d :: (t ++ b) := by
      rintro ⟨e, he⟩
      rcases append_eq_append_iff.mp (show old ++ e = (d :: t) ++ b from he) with ⟨z, hz, -⟩ | ⟨y, rfl, hy⟩
      · exact hpre ⟨z, hz.symm⟩
      · by_cases hynil : y = []
        · exact hpre ⟨[], by simp [hynil]⟩
        · exact h (d :: t) y (by simp) hynil (suffix_refl _) ⟨e, hy.symm⟩ rfl
    rw [cons_append, replace_cons hold hmiss, replace_cons hold hpre, cons_append, ih]
    exact fun x y hx hy hxs hyp => h x y hx hy (hxs.trans (suffix_cons d t)) hyp

theorem settle_append (x : Text) : settle old new (x ++ old) = x ++ new := by
  simp [settle]

theorem settle_of_not_suffix (h : ¬old <:+ p) : settle old new p = p := by
  rw [settle, if_neg]
  rwa [isSuffixOf_iff_suffix]

theorem replace_piece (hold : ClosedBy c old) (hp : ClosedBy c p) : replace old new p = settle old new p := by
  by_cases hsuf : old <:+ p
  · obtain ⟨x, rfl⟩ := hsuf
    have hx : c ∉ x := (hp.of_append hold.ne_nil).1
    have hxs : replace old new x = x :=
      replace_of_not_occurs hold.ne_nil fun hocc => hx (hocc.subset hold.mem)
    have hself : replace old new old = new := by
      have happend : replace old new (old ++ []) = new ++ replace old new [] := replace_append hold.ne_nil []
      simpa [replace_nil hold.ne_nil] using happend
    rw [settle_append, replace_append_of_border hold.ne_nil, hxs, hself]
    intro y z hy hz hys hzp heq
    have hz' : c ∈ z := ((heq ▸ hold).of_append hz).2.mem
    obtain rfl := hold.eq_of_prefix hz' hzp
    exact hy (append_left_eq_self.mp heq)
  · rw [settle_of_not_suffix hsuf, replace_of_not_occurs hold.ne_nil]
    intro hocc
    obtain ⟨u, hu, rfl⟩ := hp
    rcases infix_concat_iff.mp hocc with hocc | hocc
    · exact hsuf hocc
    · exact hu (hocc.subset hold.mem)

theorem replace_weave {parts : List (Text × Text)} {last : Text} (hold : ClosedBy c old)
    (hgaps : ∀ part ∈ parts, ¬old <:+: part.1) (hlast : ¬old <:+: last)
    (hpieces : ∀ part ∈ parts, ClosedBy c part.2)
    (hseams : ∀ part ∈ parts, ∀ x, x ≠ [] → x <:+ part.1 → x ++ part.2 ≠ old) :
    replace old new (weave parts last) = weave (parts.map fun part => (part.1, settle old new part.2)) last := by
  induction parts with
  | nil => exact replace_of_not_occurs hold.ne_nil hlast
  | cons part parts ih =>
    obtain ⟨gap, piece⟩ := part
    have hpiece : ClosedBy c piece := hpieces _ mem_cons_self
    have hgap : ¬old <:+: gap := hgaps _ mem_cons_self
    have hseam : ∀ x, x ≠ [] → x <:+ gap → x ++ piece ≠ old := hseams _ mem_cons_self
    have hrest := ih (fun part h => hgaps part (mem_cons_of_mem _ h))
      (fun part h => hpieces part (mem_cons_of_mem _ h))
      (fun part h => hseams part (mem_cons_of_mem _ h))
    rw [weave, map_cons, weave, append_assoc, replace_append_of_border hold.ne_nil,
      replace_append_of_border hold.ne_nil, replace_of_not_occurs hold.ne_nil hgap, replace_piece hold hpiece,
      hrest, append_assoc]
    · -- the end of the piece is the only place where an occurrence can end
      intro x y hx hy hxs hyp heq
      have hx' : c ∉ x := ((heq ▸ hold).of_append hy).1
      obtain ⟨z, rfl⟩ := hxs
      exact hx' (hpiece.of_append hx).2.mem
    · intro x y hx hy hxs hyp heq
      have hy' : ClosedBy c y := ((heq ▸ hold).of_append hy).2
      obtain rfl := hpiece.eq_of_prefix_append hy' hyp
      exact hseam x hx hxs heq

end Geoscript.Text
