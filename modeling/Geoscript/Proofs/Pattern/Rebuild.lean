import Geoscript.Proofs.Pattern.Accept
import Mathlib.Data.List.Forall2

/-! Texts put together from their matches: these lie behind one another, with what they leave between them
(`laid_occurrences`). Where each replacement is like its match, the new text is like the old one
(`forall₂_replaceBy`). -/

namespace Geoscript.Pattern
open List
variable {p : Pattern} {c : Cursor} {t : Text} {m : Match} {ms : List Match} {f : Match → Text}

/-- Matches that lie behind one another from a place on. -/
inductive Laid (p : Pattern) : Cursor → List Match → Prop
  | done (c : Cursor) : Laid p c []
  | next {c : Cursor} {m : Match} {ms : List Match} {u v : Text} {depth : Nat} {moving : Bool} :
      c.Over u m.start → m.start.Over v m.stop → p.matchAt depth moving m.start = some m → Laid p m.stop ms →
      Laid p c (m :: ms)

theorem laid_matchesFrom {depth fuel : Nat} {moving : Bool} : Laid p c (p.matchesFrom depth fuel moving c) := by
  induction fuel generalizing moving c with
  | zero => exact .done c
  | succ fuel ih =>
    rw [matchesFrom]
    split
    · exact .done c
    · next m hm =>
      obtain ⟨u, hu, hmatch, -⟩ := searchFrom_some hm
      obtain ⟨v, hv⟩ := over_of_matchAt hmatch
      exact .next hu hv hmatch ih

theorem laid_occurrences (p : Pattern) (t : Text) : Laid p (.start t) (p.occurrences t) :=
  laid_matchesFrom

theorem Laid.forall₂_rebuild {R : Char → Char → Prop} (hrefl : ∀ ch, R ch ch) (h : Laid p c ms)
    (hf : ∀ m ∈ ms, ∀ depth moving, p.matchAt depth moving m.start = some m → Forall₂ R m.text (f m)) :
    Forall₂ R c.after (rebuild f c ms) := by
  induction h with
  | done c => exact forall₂_same.mpr fun ch _ => hrefl ch
  | @next c m ms u v depth moving hu hv hmatch _ ih =>
    rw [forall_mem_cons] at hf
    have hm := hf.1 depth moving hmatch
    rw [Match.text, hv.upTo] at hm
    rw [rebuild, hu.upTo, hu.after, hv.after, ← append_assoc]
    exact rel_append (rel_append (forall₂_same.mpr fun ch _ => hrefl ch) hm) (ih hf.2)

theorem forall₂_replaceBy {R : Char → Char → Prop} (hrefl : ∀ ch, R ch ch)
    (hf : ∀ m depth moving, p.matchAt depth moving m.start = some m → Forall₂ R m.text (f m)) (t : Text) :
    Forall₂ R t (p.replaceBy f t) :=
  (laid_occurrences p t).forall₂_rebuild hrefl fun m _ => hf m

/-! ### Groups that are handed on -/

def groupless : Pattern → Bool
  | .seq p q => p.groupless && q.groupless
  | .either p q => p.groupless && q.groupless
  | .many p _ _ _ => p.groupless
  | .group _ _ => false
  | .atomic _ => false
  | .look _ wanted _ => !wanted
  | _ => true

def HandsOn (w : Matcher) : Prop :=
  ∀ c caps k, w c caps k = w c caps fun c' _ => k c' caps

theorem HandsOn.seq {w w' : Matcher} (hw : HandsOn w) (hw' : HandsOn w') :
    HandsOn fun c caps k => w c caps fun c' caps' => w' c' caps' k := by
  intro c caps k
  calc w c caps (fun c' caps' => w' c' caps' k)
    _ = w c caps fun c' _ => w' c' caps k := hw c caps _
    _ = w c caps fun c' _ => w' c' caps fun c'' _ => k c'' caps := by
      congr
      funext c' _
      exact hw' c' caps k
    _ = w c caps fun c' caps' => w' c' caps' fun c'' _ => k c'' caps :=
      (hw c caps fun c' caps' => w' c' caps' fun c'' _ => k c'' caps).symm

theorem HandsOn.many {w : Matcher} (hw : HandsOn w) {greed : Greed} {most : Option Nat} {room n least : Nat} :
    HandsOn (manyMatcher w greed most room n least) := by
  induction room generalizing n with
  | zero => exact fun _ _ _ => rfl
  | succ room ih =>
    intro c caps k
    have hmore : HandsOn fun c' caps' k =>
        if c'.pos = c.pos then none else manyMatcher w greed most room (n + 1) least c' caps' k := by
      intro c' caps' k
      simp only
      rw [ih]
    have hseq := hw.seq hmore c caps k
    simp only at hseq
    simp only [manyMatcher, hseq]

theorem handsOn_matcher {calls : Nat → Matcher} {dir : Direction} (hp : p.groupless) :
    HandsOn (matcher calls dir p) := by
  induction p with
  | seq p q ihp ihq =>
    rw [groupless, Bool.and_eq_true] at hp
    cases dir with
    | forward => exact (ihp hp.1).seq (ihq hp.2)
    | backward => exact (ihq hp.2).seq (ihp hp.1)
  | either p q ihp ihq =>
    rw [groupless, Bool.and_eq_true] at hp
    intro c caps k
    simp only [matcher]
    rw [ihp hp.1, ihq hp.2]
  | many p greed least most ih => exact fun c caps k => (ih hp).many c caps k
  | group n p ih => cases hp
  | atomic p ih => cases hp
  | look side wanted p ih =>
    rw [groupless, Bool.not_eq_true'] at hp
    subst hp
    exact fun _ _ _ => rfl
  | _ => exact fun _ _ _ => rfl

/-- What is accepted behind a pattern without groups is accepted with the groups read before it. -/
theorem over_of_groupless {depth : Nat} {whole : Pattern} (hp : p.groupless) {caps : Captures}
    {k : Continuation} {e : Ending} (h : matcher (calls whole depth) .forward p c caps k = some e) :
    ∃ u c', c.Over u c' ∧ k c' caps = some e := by
  rw [handsOn_matcher hp] at h
  obtain ⟨b, hb, hk⟩ := reads_of_matcher (sound_calls whole depth) h
  obtain ⟨u, hu⟩ := over_of_reads (fun _ _ _ h => over_of_callReads h) hb
  exact ⟨u, b.1, hu, hk⟩

end Geoscript.Pattern
