import Geoscript.Pattern.Matcher
import Mathlib.Logic.Relation

/-! What a pattern reads: the places a matcher can come to (`Reads`), without the order in which they are tried and
without what looks ask for (`reads_of_matcher`). -/

namespace Geoscript
open List
variable {rest t read : Text} {n : Nat} {s : CharSet} {most : Option Nat}

/-- The second place lies a text behind the first. -/
structure Cursor.Over (c : Cursor) (u : Text) (c' : Cursor) : Prop where
  after : c.after = u ++ c'.after
  before : c'.before = u.reverse ++ c.before
  pos : c'.pos = c.pos + u.length

namespace Cursor
variable {c c' c'' : Cursor} {u v : Text}

theorem Over.refl (c : Cursor) : c.Over [] c :=
  ⟨rfl, rfl, rfl⟩

theorem Over.trans (h : c.Over u c') (h' : c'.Over v c'') : c.Over (u ++ v) c'' where
  after := by rw [h.after, h'.after, append_assoc]
  before := by rw [h'.before, h.before, reverse_append, append_assoc]
  pos := by rw [h'.pos, h.pos, length_append, Nat.add_assoc]

theorem Over.cons {ch : Char} (h : c.after = ch :: rest) : c.Over [ch] ⟨ch :: c.before, rest, c.pos + 1⟩ :=
  ⟨h, rfl, rfl⟩

theorem Over.eq_of_nil (h : c.Over [] c') : c' = c := by
  obtain ⟨ha, hb, hp⟩ := h
  cases c
  cases c'
  simp_all

theorem Over.upTo (h : c.Over u c') : c.upTo c'.pos = u := by
  rw [Cursor.upTo, h.after, h.pos, Nat.add_sub_cancel_left, take_left]

theorem over_of_readAhead {read' rest' : Text} {n' : Nat} (h : readAhead t read rest n = some (read', rest', n')) :
    rest = t ++ rest' ∧ read' = t.reverse ++ read ∧ n' = n + t.length := by
  induction t generalizing read rest n with
  | nil =>
    cases h
    exact ⟨rfl, rfl, rfl⟩
  | cons ch t ih =>
    cases rest with
    | nil => cases h
    | cons d rest =>
      rw [readAhead] at h
      split at h
      · next heq =>
        obtain ⟨hrest, hread, hn⟩ := ih h
        refine ⟨by rw [heq, hrest]; rfl, by rw [hread, heq]; simp, ?_⟩
        rw [hn, length_cons]
        omega
      · cases h

theorem over_of_read? (h : c.read? .forward t = some c') : c.Over t c' := by
  unfold read? at h
  simp only at h
  split at h
  · next hread =>
    cases h
    obtain ⟨hrest, hbefore, hn⟩ := over_of_readAhead hread
    exact ⟨hrest, hbefore, by simp [hn]⟩
  · cases h

end Cursor

namespace Pattern
variable {p : Pattern} {c c' : Cursor} {caps caps' : Captures} {k : Continuation} {e : Ending}

/-- Reading a pattern forward from one place to another, given what its calls read. -/
def Reads (R : Nat → Cursor → Cursor → Prop) : Pattern → Cursor × Captures → Cursor × Captures → Prop
  | .empty => fun a b => b = a
  | .lit t => fun a b => a.1.Over t b.1 ∧ b.2 = a.2
  | .one s => fun a b => ∃ ch, s.has ch ∧ a.1.Over [ch] b.1 ∧ b.2 = a.2
  | .seq p q => fun a b => ∃ m, Reads R p a m ∧ Reads R q m b
  | .either p q => fun a b => Reads R p a b ∨ Reads R q a b
  | .run s _ least _ => fun a b =>
    ∃ u : Text, least ≤ u.length ∧ (∀ ch ∈ u, s.has ch) ∧ a.1.Over u b.1 ∧ b.2 = a.2
  | .many p _ _ _ => fun a b => Relation.ReflTransGen (Reads R p) a b
  | .group n p => fun a b => ∃ caps, Reads R p a (b.1, caps) ∧ b.2 = (n, ⟨a.1, b.1.pos⟩) :: caps
  | .atomic p => Reads R p
  | .look _ _ _ => fun a b => b.1 = a.1
  | .textStart => fun a b => b = a ∧ a.1.before = []
  | .lineStart => fun a b => b = a ∧ a.1.before.head?.all (· == '\n')
  | .lineEnd => fun a b => b = a ∧ a.1.after.head?.all (· == '\n')
  | .lastLineEnd => fun a b => b = a
  | .sameAs n => fun a b => ∃ s, a.2.lookup n = some s ∧ a.1.Over s.text b.1 ∧ b.2 = a.2
  | .call n => fun a b => R n a.1 b.1 ∧ b.2 = a.2

/-! ### Runs and repetitions -/

theorem runLongest_none {k : Nat → Text → Text → Option Ending}
    (h : runLongest s most k n read rest = none) : k n read rest = none := by
  cases rest with
  | nil => exact h
  | cons ch rest =>
    rw [runLongest] at h
    split at h
    · split at h
      · cases h
      · exact h
    · exact h

/-- A run stops before a character of its set only if nothing is accepted behind that character. -/
theorem run_of_runLongest {k : Nat → Text → Text → Option Ending} (h : runLongest s most k n read rest = some e) :
    ∃ u rest', rest = u ++ rest' ∧ (∀ ch ∈ u, s.has ch) ∧
      k (n + u.length) (u.reverse ++ read) rest' = some e ∧ ∀ d rest'', rest' = d :: rest'' → s.has d →
        allowsMore most (n + u.length) → k (n + u.length + 1) (d :: (u.reverse ++ read)) rest'' = none := by
  induction rest generalizing n read with
  | nil => exact ⟨[], [], rfl, by simp, h, by simp⟩
  | cons ch rest ih =>
    rw [runLongest] at h
    split at h
    · next hch =>
      rw [Bool.and_eq_true] at hch
      split at h
      · next hmore =>
        rw [h] at hmore
        obtain ⟨u, rest', rfl, hu, hk, hstop⟩ := ih hmore
        have hcount : n + 1 + u.length = n + (ch :: u).length := by
          rw [length_cons]
          omega
        have hread : u.reverse ++ ch :: read = (ch :: u).reverse ++ read := by
          simp
        rw [hcount, hread] at hk hstop
        exact ⟨ch :: u, rest', rfl, forall_mem_cons.mpr ⟨hch.1, hu⟩, hk, hstop⟩
      · next hnone =>
        refine ⟨[], ch :: rest, rfl, by simp, h, ?_⟩
        rintro d rest'' heq - -
        obtain ⟨rfl, rfl⟩ := cons.inj heq
        exact runLongest_none hnone
    · next hch =>
      refine ⟨[], ch :: rest, rfl, by simp, h, ?_⟩
      rintro d rest'' heq hd hmost
      obtain ⟨rfl, rfl⟩ := cons.inj heq
      exact absurd (Bool.and_eq_true_iff.mpr ⟨hd, hmost⟩) hch

theorem run_of_runShortest {k : Nat → Text → Text → Option Ending} (h : runShortest s most k n read rest = some e) :
    ∃ u rest', rest = u ++ rest' ∧ (∀ ch ∈ u, s.has ch) ∧ k (n + u.length) (u.reverse ++ read) rest' = some e := by
  induction rest generalizing n read with
  | nil => exact ⟨[], [], rfl, by simp, h⟩
  | cons ch rest ih =>
    rw [runShortest] at h
    split at h
    · next hstop =>
      rw [h] at hstop
      exact ⟨[], ch :: rest, rfl, by simp, hstop⟩
    · split at h
      · next hch =>
        rw [Bool.and_eq_true] at hch
        obtain ⟨u, rest', rfl, hu, hk⟩ := ih h
        refine ⟨ch :: u, rest', rfl, ?_, ?_⟩
        · exact forall_mem_cons.mpr ⟨hch.1, hu⟩
        · rw [length_cons, reverse_cons, append_assoc, singleton_append]
          rwa [Nat.add_right_comm, Nat.add_assoc] at hk
      · cases h

theorem run_of_runMatcher {greed : Greed} {least : Nat}
    (h : runMatcher .forward s greed least most c caps k = some e) :
    ∃ u c', least ≤ u.length ∧ (∀ ch ∈ u, s.has ch) ∧ c.Over u c' ∧ k c' caps = some e := by
  have hrun : ∃ u rest', c.after = u ++ rest' ∧ (∀ ch ∈ u, s.has ch) ∧
      (if 0 + u.length < least then none else k ⟨u.reverse ++ c.before, rest', c.pos + (0 + u.length)⟩ caps) =
        some e := by
    cases greed with
    | longest =>
      obtain ⟨u, rest', hrest, hu, hk, -⟩ := run_of_runLongest h
      exact ⟨u, rest', hrest, hu, hk⟩
    | shortest => exact run_of_runShortest h
  obtain ⟨u, rest', hafter, hu, hk⟩ := hrun
  rw [Nat.zero_add] at hk
  split at hk
  · cases hk
  · next hlen => exact ⟨u, _, Nat.le_of_not_lt hlen, hu, ⟨hafter, rfl, rfl⟩, hk⟩

/-- What is accepted by a matcher has been read in the sense of a relation. -/
def Sound (m : Matcher) (R : Cursor × Captures → Cursor × Captures → Prop) : Prop :=
  ∀ {c : Cursor} {caps : Captures} {k : Continuation} {e : Ending}, m c caps k = some e →
    ∃ b, R (c, caps) b ∧ k b.1 b.2 = some e

theorem Sound.many {m : Matcher} {R : Cursor × Captures → Cursor × Captures → Prop} (hm : Sound m R)
    {greed : Greed} {most : Option Nat} {room n least : Nat} :
    Sound (manyMatcher m greed most room n least) (Relation.ReflTransGen R) := by
  induction room generalizing n with
  | zero =>
    intro c caps k e h
    rw [manyMatcher] at h
    split at h
    · cases h
    · exact ⟨(c, caps), .refl, h⟩
  | succ room ih =>
    intro c caps k e h
    have hstop : (if n < least then none else k c caps) = some e →
        ∃ b, Relation.ReflTransGen R (c, caps) b ∧ k b.1 b.2 = some e := by
      intro hk
      split at hk
      · cases hk
      · exact ⟨(c, caps), .refl, hk⟩
    have hmore : (if allowsMore most n then m c caps fun c' caps' =>
          if c'.pos = c.pos then none else manyMatcher m greed most room (n + 1) least c' caps' k
        else none) = some e → ∃ b, Relation.ReflTransGen R (c, caps) b ∧ k b.1 b.2 = some e := by
      intro hk
      split at hk
      · obtain ⟨a, ha, hk⟩ := hm hk
        split at hk
        · cases hk
        · obtain ⟨b, hb, hk⟩ := ih hk
          exact ⟨b, .head ha hb, hk⟩
      · cases hk
    rw [manyMatcher] at h
    cases greed with
    | longest =>
      simp only at h
      split at h
      · next heq =>
        rw [h] at heq
        exact hmore heq
      · exact hstop h
    | shortest =>
      simp only at h
      split at h
      · next heq =>
        rw [h] at heq
        exact hstop heq
      · exact hmore h

/-! ### Matchers -/

theorem reads_of_matcher {calls : Nat → Matcher} {R : Nat → Cursor → Cursor → Prop}
    (hcalls : ∀ n, Sound (calls n) fun a b => R n a.1 b.1) : Sound (matcher calls .forward p) (Reads R p) := by
  induction p with
  | empty => exact fun h => ⟨_, rfl, h⟩
  | lit t =>
    intro c caps k e h
    simp only [matcher] at h
    split at h
    · next c' hread => exact ⟨(c', caps), ⟨Cursor.over_of_read? hread, rfl⟩, h⟩
    · cases h
  | one s =>
    intro c caps k e h
    simp only [matcher, Cursor.step?, Cursor.next?] at h
    cases hafter : c.after with
    | nil =>
      rw [hafter] at h
      cases h
    | cons ch rest =>
      simp only [hafter] at h
      split at h
      · next hch => exact ⟨(_, caps), ⟨ch, hch, Cursor.Over.cons hafter, rfl⟩, h⟩
      · cases h
  | seq p q ihp ihq =>
    intro c caps k e h
    obtain ⟨m, hm, h⟩ := ihp h
    obtain ⟨b, hb, h⟩ := ihq h
    exact ⟨b, ⟨m, hm, hb⟩, h⟩
  | either p q ihp ihq =>
    intro c caps k e h
    simp only [matcher] at h
    split at h
    · next heq =>
      rw [h] at heq
      obtain ⟨b, hb, h⟩ := ihp heq
      exact ⟨b, .inl hb, h⟩
    · obtain ⟨b, hb, h⟩ := ihq h
      exact ⟨b, .inr hb, h⟩
  | run s greed least most =>
    intro c caps k e h
    obtain ⟨u, c', hlen, hu, hover, h⟩ := run_of_runMatcher h
    exact ⟨(c', caps), ⟨u, hlen, hu, hover, rfl⟩, h⟩
  | many p greed least most ih => exact fun h => Sound.many ih h
  | group n p ih =>
    intro c caps k e h
    obtain ⟨b, hb, h⟩ := ih h
    exact ⟨(b.1, (n, ⟨c, b.1.pos⟩) :: b.2), ⟨b.2, hb, rfl⟩, h⟩
  | atomic p ih =>
    intro c caps k e h
    simp only [matcher] at h
    split at h
    · next e' heq =>
      obtain ⟨b, hb, hk⟩ := ih heq
      cases hk
      exact ⟨b, hb, h⟩
    · cases h
  | look side wanted p ih =>
    intro c caps k e h
    simp only [matcher] at h
    split at h
    · next e' _ =>
      split at h
      · exact ⟨(c, e'.captures), rfl, h⟩
      · cases h
    · split at h
      · cases h
      · exact ⟨(c, caps), rfl, h⟩
  | textStart =>
    intro c caps k e h
    simp only [matcher] at h
    split at h
    · next hbefore => exact ⟨(c, caps), ⟨rfl, isEmpty_iff.mp hbefore⟩, h⟩
    · cases h
  | lineStart =>
    intro c caps k e h
    simp only [matcher] at h
    split at h
    · next hbefore => exact ⟨(c, caps), ⟨rfl, hbefore⟩, h⟩
    · cases h
  | lineEnd =>
    intro c caps k e h
    simp only [matcher] at h
    split at h
    · next hafter => exact ⟨(c, caps), ⟨rfl, hafter⟩, h⟩
    · cases h
  | lastLineEnd =>
    intro c caps k e h
    simp only [matcher] at h
    split at h
    · exact ⟨(c, caps), rfl, h⟩
    · cases h
  | sameAs n =>
    intro c caps k e h
    simp only [matcher] at h
    split at h
    · cases h
    · next s hs =>
      split at h
      · next c' hread => exact ⟨(c', caps), ⟨s, hs, Cursor.over_of_read? hread, rfl⟩, h⟩
      · cases h
  | call n =>
    intro c caps k e h
    obtain ⟨b, hb, h⟩ := hcalls n h
    exact ⟨(b.1, caps), ⟨hb, rfl⟩, h⟩

def CallReads (whole : Pattern) : Nat → Nat → Cursor → Cursor → Prop
  | 0, _ => fun _ _ => False
  | depth + 1, n => fun c c' =>
    ∃ p caps caps', whole.part n = some p ∧ Reads (CallReads whole depth) p (c, caps) (c', caps')

theorem sound_calls (whole : Pattern) (depth n : Nat) :
    Sound (calls whole depth n) fun a b => CallReads whole depth n a.1 b.1 := by
  induction depth generalizing n with
  | zero => exact fun h => nomatch h
  | succ depth ih =>
    intro c caps k e h
    simp only [calls] at h
    split at h
    · next p hp =>
      obtain ⟨b, hb, h⟩ := reads_of_matcher (p := p) ih h
      exact ⟨b, ⟨p, caps, b.2, hp, hb⟩, h⟩
    · cases h

end Pattern

end Geoscript
