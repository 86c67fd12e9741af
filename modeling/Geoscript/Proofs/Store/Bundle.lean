import Geoscript.Proofs.Store.Rounds

/-! Bundles that come to an end. An expansion has no memory: with tidy requiring lines it ends exactly if the module
comes to one that cannot be expanded, or to none that needs itself (`bundle_ends_iff`). -/

namespace Geoscript.Store
open List Text

variable {t : Tree} {n n' : Nat} {ls ls' : List Text} {m m' x : ModuleName} {ms : List ModuleName}

namespace Tree

/-- `m` needs `m'` in place of one of its lines. -/
def Needs (t : Tree) (m m' : ModuleName) : Prop :=
  m' ∈ t.needs m

/-- `x` comes to a module that cannot be expanded. -/
def Breaks (t : Tree) (x : ModuleName) : Prop :=
  ∃ m, Relation.ReflTransGen t.Needs x m ∧ t.expandable m = false

/-- `x` comes to a module that needs itself, directly or through others. -/
def Circles (t : Tree) (x : ModuleName) : Prop :=
  ∃ m, Relation.ReflTransGen t.Needs x m ∧ Relation.TransGen t.Needs m m

theorem Breaks.head (h : t.Needs m m') (hm : t.Breaks m') : t.Breaks m := by
  obtain ⟨b, hreach, hb⟩ := hm
  exact ⟨b, hreach.head h, hb⟩

theorem Circles.head (h : t.Needs m m') (hm : t.Circles m') : t.Circles m := by
  obtain ⟨c, hreach, hcircle⟩ := hm
  exact ⟨c, hreach.head h, hcircle⟩

theorem Circles.next (h : t.Circles m) : ∃ m', t.Needs m m' ∧ t.Circles m' := by
  obtain ⟨c, hreach, hcircle⟩ := h
  obtain ⟨m', hneeds, hrest⟩ := Relation.TransGen.head'_iff.mp (Relation.TransGen.trans_right hreach hcircle)
  exact ⟨m', hneeds, c, hrest, hcircle⟩

end Tree

/-! ### Rounds that end -/

/-- The rounds from some lines on come to an end. -/
inductive Ends (t : Tree) : Nat → List Text → Prop
  | still {n : Nat} {ls : List Text} : ls.any requires = false → Ends t n ls
  | failed {n : Nat} {ls : List Text} {e : Problem} : expandOnce t n ls = .error e → Ends t n ls
  | round {n n' : Nat} {ls ls' : List Text} : expandOnce t n ls = .ok (n', ls') → Ends t n' ls' → Ends t n ls

theorem ends_of_expand {rounds : Nat} {r : Except Problem (Nat × List Text)} (h : expand t rounds n ls = some r) :
    Ends t n ls := by
  induction rounds generalizing n ls with
  | zero =>
    rw [expand] at h
    split at h
    · cases h
    · next hstill => exact .still (Bool.eq_false_iff.mpr hstill)
  | succ rounds ih =>
    rw [expand] at h
    split at h
    · cases hround : expandOnce t n ls with
      | error e => exact .failed hround
      | ok r =>
        rw [hround] at h
        exact .round hround (ih h)
    · next hstill => exact .still (Bool.eq_false_iff.mpr hstill)

theorem expand_still (rounds : Nat) (h : ls.any requires = false) : expand t rounds n ls = some (.ok (n, ls)) := by
  unfold expand
  rw [if_neg (Bool.eq_false_iff.mp h)]

theorem Ends.expand (h : Ends t n ls) : ∃ rounds r, expand t rounds n ls = some r := by
  induction h with
  | still hstill => exact ⟨0, _, expand_still 0 hstill⟩
  | @failed n ls e hround =>
    cases hany : ls.any requires with
    | false => exact ⟨0, _, expand_still 0 hany⟩
    | true => exact ⟨1, .error e, by rw [Store.expand, if_pos hany, hround]⟩
  | @round n n' ls ls' hround _ ih =>
    cases hany : ls.any requires with
    | false => exact ⟨0, _, expand_still 0 hany⟩
    | true =>
      obtain ⟨rounds, r, hr⟩ := ih
      exact ⟨rounds + 1, r, by rw [Store.expand, if_pos hany, hround, ← hr]⟩

theorem exists_expand_iff : (∃ rounds, (expand t rounds n ls).isSome) ↔ Ends t n ls := by
  simp only [Option.isSome_iff_exists]
  exact ⟨fun ⟨_, _, h⟩ => ends_of_expand h, Ends.expand⟩

/-! ### Modules put in place -/

/-- Modules put in place of lines, then those that they need, and so on, until one of them cannot be expanded
or none is left. -/
inductive Settles (t : Tree) : List ModuleName → Prop
  | broken {m : ModuleName} {ms : List ModuleName} : m ∈ ms → t.expandable m = false → Settles t ms
  | empty : Settles t []
  | next {ms : List ModuleName} : Settles t (ms.flatMap t.needs) → Settles t ms

theorem neededBy_eq_nil (h : ls.any requires = false) : neededBy ls = [] := by
  rw [neededBy, filterMap_eq_nil_iff]
  intro line hline
  rw [needed, if_neg (any_eq_false.mp h line hline)]

theorem any_requires_eq_false (hformed : wellFormed ls) (h : neededBy ls = []) : ls.any requires = false := by
  rw [any_eq_false]
  intro line hline hrequires
  have hnone := filterMap_eq_nil_iff.mp h line hline
  have hsome := all_eq_true.mp hformed line hline
  rw [needed, if_pos hrequires, Option.map_eq_none_iff] at hnone
  rw [hrequires, hnone] at hsome
  cases hsome

theorem ends_of_not_wellFormed (ht : t.Tidy) (hls : TidyLines ls) (h : wellFormed ls = false) : Ends t n ls := by
  cases hround : expandOnce t n ls with
  | error e => exact .failed hround
  | ok r => exact absurd (h.symm.trans (expandOnce_ok ht hls hround).1) Bool.false_ne_true

theorem settles_of_ends (ht : t.Tidy) (hls : TidyLines ls) (h : Ends t n ls) :
    wellFormed ls = false ∨ Settles t (neededBy ls) := by
  induction h with
  | still hstill => exact .inr (neededBy_eq_nil hstill ▸ .empty)
  | failed hround =>
    rcases expandOnce_error hround with hformed | ⟨m, hm, hbad⟩
    · exact .inl hformed
    · exact .inr (.broken hm hbad)
  | round hround _ ih =>
    obtain ⟨-, hround⟩ := expandOnce_ok ht hls hround
    refine .inr ?_
    rcases ih hround.tidy with hformed | hsettles
    · rw [hround.formed, all_eq_false] at hformed
      obtain ⟨m, hm, hbad⟩ := hformed
      exact .broken hm (Bool.eq_false_iff.mpr hbad)
    · rw [hround.needed] at hsettles
      exact .next hsettles

theorem ends_of_settles (ht : t.Tidy) (hls : TidyLines ls) (h : Settles t ms) (hms : neededBy ls = ms) :
    Ends t n ls := by
  induction h generalizing n ls with
  | empty =>
    cases hformed : wellFormed ls with
    | false => exact ends_of_not_wellFormed ht hls hformed
    | true => exact .still (any_requires_eq_false hformed hms)
  | broken hm hbad =>
    cases hr : expandOnce t n ls with
    | error e => exact .failed hr
    | ok r =>
      obtain ⟨-, hround⟩ := expandOnce_ok ht hls hr
      refine .round hr (ends_of_not_wellFormed ht hround.tidy ?_)
      rw [hround.formed, all_eq_false]
      exact ⟨_, hms ▸ hm, Bool.eq_false_iff.mp hbad⟩
  | next _ ih =>
    cases hr : expandOnce t n ls with
    | error e => exact .failed hr
    | ok r =>
      obtain ⟨-, hround⟩ := expandOnce_ok ht hls hr
      exact .round hr (ih hround.tidy (hround.needed.trans (congrArg _ hms)))

theorem exists_bundle_iff_settles (ht : t.Tidy) (x : ModuleName) :
    (∃ rounds, (t.bundle rounds x).isSome) ↔ Settles t [x] := by
  unfold Tree.bundle
  cases htext : t.plainText x with
  | error e =>
    refine iff_of_true ⟨0, rfl⟩ (.broken mem_cons_self ?_)
    rw [Tree.expandable, htext]
  | ok text =>
    have hneeds : t.needs x = neededBy (lines text) := by rw [Tree.needs, htext]
    have hexpandable : t.expandable x = wellFormed (lines text) := by rw [Tree.expandable, htext]
    have hls := ht.lines htext
    simp only [Option.isSome_map]
    rw [exists_expand_iff]
    refine ⟨fun h => ?_, fun h => ?_⟩
    · rcases settles_of_ends ht hls h with hformed | hsettles
      · exact .broken mem_cons_self (hexpandable.trans hformed)
      · refine .next ?_
        rwa [flatMap_singleton, hneeds]
    · cases h with
      | broken hm hbad =>
        rw [mem_singleton.mp hm, hexpandable] at hbad
        exact ends_of_not_wellFormed ht hls hbad
      | next h =>
        rw [flatMap_singleton, hneeds] at h
        exact ends_of_settles ht hls h rfl

/-! ### Circles -/

def Fades (t : Tree) : Nat → ModuleName → Prop
  | 0, _ => False
  | k + 1, m => ∀ m' ∈ t.needs m, Fades t k m'

theorem settles_of_fades {k : Nat} (h : ∀ m ∈ ms, Fades t k m) : Settles t ms := by
  induction k generalizing ms with
  | zero =>
    rw [eq_nil_iff_forall_not_mem.mpr h]
    exact .empty
  | succ k ih =>
    refine .next (ih fun m' hm' => ?_)
    obtain ⟨m, hm, hneeds⟩ := mem_flatMap.mp hm'
    exact h m hm m' hneeds

def Tree.allNeeded (t : Tree) : List ModuleName :=
  t.files.flatMap fun f => neededBy (lines (comment.replaceAll [] (readLineEnds f.2)))

theorem mem_allNeeded (h : t.Needs m m') : m' ∈ t.allNeeded := by
  unfold Tree.Needs Tree.needs at h
  split at h
  · next text htext =>
    obtain ⟨f, hf, rfl⟩ := plainText_ok htext
    exact mem_flatMap.mpr ⟨f, hf, h⟩
  · cases h

theorem pending_lt_of_not_circles {seen : List ModuleName} (hm : ¬t.Circles m)
    (hseen : ∀ a ∈ seen, Relation.ReflTransGen t.Needs a m) (h : t.Needs m m') :
    (pending (seen ++ [m']) t.allNeeded).length < (pending seen t.allNeeded).length :=
  length_pending_lt (mem_allNeeded h) fun hmem => hm ⟨m', .single h, .tail' (hseen m' hmem) h⟩

theorem fades_of_not_circles {k : Nat} (seen : List ModuleName) (hm : ¬t.Circles m)
    (hseen : ∀ a ∈ seen, Relation.ReflTransGen t.Needs a m) (hk : (pending seen t.allNeeded).length ≤ k) :
    Fades t (k + 1) m := by
  -- Induction on the number of names that are not yet on the way to `m`.
  induction k generalizing m seen with
  | zero =>
    intro m' hneeds
    have hlt := pending_lt_of_not_circles hm hseen hneeds
    exact absurd hlt (Nat.not_lt_of_le (Nat.le_trans hk (Nat.zero_le _)))
  | succ k ih =>
    intro m' hneeds
    have hlt := pending_lt_of_not_circles hm hseen hneeds
    refine ih (seen ++ [m']) (fun hcircles => hm (hcircles.head hneeds)) (fun a ha => ?_)
      (Nat.le_of_lt_succ (Nat.lt_of_lt_of_le hlt hk))
    rcases mem_append.mp ha with ha | ha
    · exact (hseen a ha).tail hneeds
    · rw [mem_singleton.mp ha]

theorem settles_of_breaks (hm : m ∈ ms) (h : t.Breaks m) : Settles t ms := by
  obtain ⟨b, hreach, hbad⟩ := h
  induction hreach using Relation.ReflTransGen.head_induction_on generalizing ms with
  | refl => exact .broken hm hbad
  | head hneeds _ ih => exact .next (ih (mem_flatMap.mpr ⟨_, hm, hneeds⟩))

theorem settles_iff : Settles t ms ↔ (∃ m ∈ ms, t.Breaks m) ∨ ∀ m ∈ ms, ¬t.Circles m := by
  refine ⟨fun h => ?_, ?_⟩
  · induction h with
    | broken hm hbad => exact .inl ⟨_, hm, _, .refl, hbad⟩
    | empty => exact .inr fun m hm => (nomatch hm)
    | next _ ih =>
      rcases ih with ⟨m', hm', hbreaks⟩ | hnone
      · obtain ⟨m, hm, hneeds⟩ := mem_flatMap.mp hm'
        exact .inl ⟨m, hm, hbreaks.head hneeds⟩
      · refine .inr fun m hm hcircles => ?_
        obtain ⟨m', hneeds, hcircles'⟩ := hcircles.next
        exact hnone m' (mem_flatMap.mpr ⟨m, hm, hneeds⟩) hcircles'
  · rintro (⟨m, hm, hbreaks⟩ | hnone)
    · exact settles_of_breaks hm hbreaks
    · exact settles_of_fades fun m hm =>
        fades_of_not_circles [] (hnone m hm) (fun a ha => (nomatch ha)) (Nat.le_refl _)

/-- An expansion ends after some rounds exactly if the module comes to one that cannot be expanded, or to no
circle. -/
theorem bundle_ends_iff (ht : t.Tidy) (x : ModuleName) :
    (∃ rounds, (t.bundle rounds x).isSome) ↔ t.Breaks x ∨ ¬t.Circles x := by
  rw [exists_bundle_iff_settles ht, settles_iff, forall_mem_singleton]
  refine or_congr_left ⟨?_, fun h => ⟨x, mem_cons_self, h⟩⟩
  rintro ⟨m, hm, hbreaks⟩
  exact mem_singleton.mp hm ▸ hbreaks

theorem mem_of_reached (hms : ∀ m ∈ ms, ∀ m' ∈ t.needs m, m' ∈ ms) (hx : x ∈ ms)
    (h : Relation.ReflTransGen t.Needs x m) : m ∈ ms := by
  induction h with
  | refl => exact hx
  | tail _ hneeds ih => exact hms _ ih _ hneeds

/-- Two modules that require each other, and one that requires only what requires nothing. -/
def pairs : State where
  tree := Tree.ofFiles [
    ("a.js", "var b = require('b')"),
    ("b.js", "exports.v = 1\nvar a = require('a')"),
    ("c.js", "var d = require('d')"),
    ("d.js", "exports.w = 2")]
  remote := []

theorem installed_without_bundle :
    ((install false false "a".toList).run pairs).1.toOption = some ["a".toList, "b".toList] ∧
      ((install false false "a".toList).run pairs).2.tree = pairs.tree ∧
      (∀ rounds, pairs.tree.bundle rounds "a".toList = none) ∧
      ∃ rounds, (pairs.tree.bundle rounds "c".toList).isSome := by
  have htidy : pairs.tree.Tidy := by decide +kernel
  refine ⟨by decide +kernel, by decide +kernel, fun rounds => ?_, ?_⟩
  · have hneeds : pairs.tree.needs "a".toList = ["b".toList] ∧ pairs.tree.needs "b".toList = ["a".toList] := by
      decide +kernel
    have hgood : ∀ m ∈ ["a".toList, "b".toList], pairs.tree.expandable m := by decide +kernel
    rw [← Option.not_isSome_iff_eq_none]
    intro hsome
    rcases (bundle_ends_iff htidy "a".toList).mp ⟨rounds, hsome⟩ with ⟨m, hreach, hbad⟩ | hnone
    · have hm : m ∈ ["a".toList, "b".toList] := mem_of_reached (by decide +kernel) mem_cons_self hreach
      exact Bool.false_ne_true (hbad.symm.trans (hgood m hm))
    · refine hnone ⟨"a".toList, .refl, .head (b := "b".toList) ?_ (.single ?_)⟩
      · rw [Tree.Needs, hneeds.1]
        exact mem_cons_self
      · rw [Tree.Needs, hneeds.2]
        exact mem_cons_self
  · have hneeds : pairs.tree.needs "c".toList = ["d".toList] ∧ pairs.tree.needs "d".toList = [] := by
      decide +kernel
    refine (bundle_ends_iff htidy _).mpr (.inr fun hcircles => ?_)
    obtain ⟨m, hm, hcircles⟩ := hcircles.next
    rw [Tree.Needs, hneeds.1, mem_singleton] at hm
    obtain ⟨m', hm', -⟩ := hcircles.next
    rw [Tree.Needs, hm, hneeds.2] at hm'
    cases hm'

end Geoscript.Store
