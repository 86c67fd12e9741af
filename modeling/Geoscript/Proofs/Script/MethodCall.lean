import Geoscript.Proofs.Pattern.Accept
import Geoscript.Script.Method.Basic

/-! What the pattern for the calls of a method matches: a receiver, the dot with the name, and what follows up to some
closing parenthesis, without another opening one (`callOf_reads`, `matchAt_callOf`). -/

namespace Geoscript.Script

open List Text Pattern
variable {spaced : Bool} {name : Text} {depth : Nat} {c : Cursor}

theorem not_has_receiverSet (spaced : Bool) : (receiverSet spaced).has '(' = false := by
  cases spaced <;> decide

theorem callReads_callOf {c' : Cursor} (h : CallReads (callOf spaced name) depth 1 c c') :
    ∃ u : Text, (∀ ch ∈ u, (receiverSet spaced).has ch) ∧ c.Over u c' := by
  cases depth with
  | zero => exact h.elim
  | succ depth =>
    obtain ⟨p, caps, caps', hp, h⟩ := h
    have hpart : (callOf spaced name).part 1 = some (.plusFew (receiverSet spaced)) := rfl
    obtain rfl : _ = p := Option.some.inj (hpart.symm.trans hp)
    obtain ⟨u, -, hu, hover, -⟩ := h
    exact ⟨u, hu, hover⟩

theorem callOf_arguments {a b : Cursor × Captures}
    (h : Relation.ReflTransGen (Reads (CallReads (callOf spaced name) depth)
      (.atomic (.either (.plus (.except "()")) (.call 1)))) a b) :
    ∃ u : Text, '(' ∉ u ∧ a.1.Over u b.1 ∧ b.2 = a.2 := by
  induction h with
  | refl => exact ⟨[], by simp, .refl _, rfl⟩
  | tail _ hstep ih =>
    obtain ⟨u, hu, hover, hcaps⟩ := ih
    rcases hstep with ⟨v, -, hv, hover', hcaps'⟩ | ⟨hcall, hcaps'⟩
    · refine ⟨u ++ v, ?_, hover.trans hover', hcaps'.trans hcaps⟩
      have hv' : '(' ∉ v := fun hmem => absurd (hv _ hmem) (by decide)
      simp [hu, hv']
    · obtain ⟨v, hv, hover'⟩ := callReads_callOf hcall
      refine ⟨u ++ v, ?_, hover.trans hover', hcaps'.trans hcaps⟩
      have hv' : '(' ∉ v := fun hmem => absurd (hv _ hmem) (by simp [not_has_receiverSet])
      simp [hu, hv']

theorem callOf_reads {b : Cursor × Captures}
    (h : Reads (CallReads (callOf spaced name) depth) (callOf spaced name) (c, []) b) :
    ∃ r a : Text, r ≠ [] ∧ (∀ ch ∈ r, (receiverSet spaced).has ch) ∧ '(' ∉ a ∧
      c.Over (r ++ '.' :: name ++ '(' :: a ++ [')']) b.1 ∧ b.2 = [(1, ⟨c, c.pos + r.length⟩)] := by
  obtain ⟨m₁, ⟨caps, ⟨r, hlen, hr, hover₁, hcaps⟩, hm₁⟩, m₂, ⟨hover₂, hm₂⟩, m₃, hmany, hover₄, hb⟩ := h
  obtain ⟨a, ha, hover₃, hm₃⟩ := callOf_arguments hmany
  have hover := ((hover₁.trans hover₂).trans hover₃).trans hover₄
  refine ⟨r, a, length_pos_iff.mp hlen, hr, ha, by simpa using hover, ?_⟩
  have hcaps : caps = [] := hcaps
  rw [hb, hm₃, hm₂, hm₁, hcaps, hover₁.pos]

theorem callOf_arguments_isSome {calls : Nat → Matcher} {caps : Captures} {k : Continuation} {a rest : Text}
    (hopen : '(' ∉ a) (hclose : ')' ∉ a) (hafter : c.after = a ++ ')' :: rest)
    (hk : ∀ c', c.Over a c' → (k c' caps).isSome) :
    (matcher calls .forward (.many (.atomic (.either (.plus (.except "()")) (.call 1))) .longest 0 none) c caps
      k).isSome := by
  refine many_plus_isSome (fun ch hch => ?_) ?_ hafter hk
  · have hne : ch ≠ '(' ∧ ch ≠ ')' := ⟨fun h => hopen (h ▸ hch), fun h => hclose (h ▸ hch)⟩
    simp [CharSet.except, CharSet.has, CharClass.covers, hne]
  · simp only [head?_cons, Option.mem_some_iff]
    rintro ch rfl
    decide

theorem matchAt_callOf {r a rest : Text} (hr : r ≠ []) (hset : ∀ ch ∈ r, (receiverSet spaced).has ch)
    (hopen : '(' ∉ a) (hclose : ')' ∉ a) (hafter : c.after = r ++ '.' :: name ++ '(' :: a ++ ')' :: rest) :
    ((callOf spaced name).matchAt depth false c).isSome := by
  refine matchAt_isSome ?_
  simp only [callOf, Pattern.all, matcher_seq, matcher_group]
  have hname : c.after = r ++ (('.' :: name ++ ['(']) ++ (a ++ ')' :: rest)) := by
    simpa using hafter
  refine run_isSome (length_pos_iff.mpr hr) hset hname (lit_isSome rfl ?_)
  refine callOf_arguments_isSome hopen hclose rfl fun c' hc' => ?_
  have hrest : c'.after = ")" ++ rest := (append_cancel_left hc'.after).symm
  exact lit_isSome hrest rfl

/-! ### What is written for a call -/

/-- Each call is replaced by a call of the stand-in, all with their own arguments or all with the argument
for a lone call. -/
theorem Method.replacements_eq (m : Method) (calls : List Call) :
    ∃ arg : Call → Text, ((∀ c, arg c = c.arguments) ∨ ∃ l, m.loneArgument = some l ∧ ∀ c, arg c = l.toList) ∧
      m.replacements calls = calls.map fun c => (c.text, m.standIn ++ '(' :: m.passed c (arg c) ++ [')']) := by
  unfold Method.replacements Method.argumentsOf
  split
  · next l hcalls hlone =>
    obtain ⟨c, rfl, -⟩ := map_eq_singleton_iff.mp hcalls
    exact ⟨fun _ => l.toList, .inr ⟨l, hlone, fun _ => rfl⟩, by simp⟩
  · refine ⟨Call.arguments, .inl fun _ => rfl, ?_⟩
    rw [zipWith_map_right, zipWith_self]
    simp

end Geoscript.Script
