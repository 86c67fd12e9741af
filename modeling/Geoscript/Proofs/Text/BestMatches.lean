import Geoscript.Value.Similar
import Mathlib.Data.Char
import Mathlib.Data.List.Lex
import Mathlib.Data.Prod.Lex

/-! Close matches and their ranking. The texts are ranked by their small-letter forms, but the matches are picked out of
the list as it is: they are in the order of the ranking only if the list is (`idxOf_le_iff`), and a text that reads like
one of the best is picked too, so that there can be more of them than asked for (`length_filter_take_le_iff`). -/

namespace Geoscript.Text
open List
variable {word s t : Text} {texts : List Text} {n : Nat} {cutoff : Number}

/-! ### The order of scored texts -/

theorem before_iff_lt (a b : Text) : before a b ↔ a < b := by
  induction a generalizing b with
  | nil => cases b <;> simp [before]
  | cons c a ih =>
    cases b with
    | nil => simp [before]
    | cons d b => simp [before, ih, cons_lt_cons_iff]

/-- What a scored text is ranked by. -/
def rankKey (a : Double × Text) : Nat ×ₗ Text :=
  toLex (a.1.bits.toNat, a.2)

theorem rankKey_injective : Function.Injective rankKey := by
  rintro ⟨⟨x⟩, a⟩ ⟨⟨y⟩, b⟩ h
  obtain ⟨hbits, htext⟩ := Prod.mk.inj (toLex.injective h)
  exact Prod.ext (congrArg Double.mk (UInt64.toNat_inj.mp hbits)) htext

theorem ranksBefore_iff (a b : Double × Text) : ranksBefore a b ↔ rankKey b ≤ rankKey a := by
  have hscore : a.1 = b.1 ↔ b.1.bits.toNat = a.1.bits.toNat := by
    rw [UInt64.toNat_inj, eq_comm]
    exact ⟨fun h => h ▸ rfl, fun h => congrArg Double.mk h⟩
  have htext : (!before a.2 b.2) ↔ b.2 ≤ a.2 := by
    rw [Bool.not_eq_true', ← Bool.not_eq_true, before_iff_lt, not_lt]
  simp only [ranksBefore, Bool.or_eq_true, Bool.and_eq_true, decide_eq_true_eq, htext, hscore, rankKey,
    Prod.Lex.toLex_le_toLex]

/-! ### The ranking -/

def scored (word t : Text) : Double × Text :=
  (similarity word t, t)

/-- All texts that are close enough to the word, best first. -/
def ranking (word : Text) (texts : List Text) (cutoff : Number) : List Text :=
  (((texts.map (scored word)).filter fun a => cutoff.le (.double a.1)).mergeSort ranksBefore).map (·.2)

theorem closest_eq_take : closest word texts n cutoff = (ranking word texts cutoff).take n :=
  map_take

theorem ranking_perm (word : Text) (texts : List Text) (cutoff : Number) :
    ranking word texts cutoff ~ texts.filter fun t => cutoff.le (.double (similarity word t)) := by
  refine ((mergeSort_perm _ _).map _).trans (.of_eq ?_)
  rw [filter_map, map_map]
  exact map_id _

theorem ranking_pairwise (word : Text) (texts : List Text) (cutoff : Number) :
    (ranking word texts cutoff).Pairwise fun s t => rankKey (scored word t) ≤ rankKey (scored word s) := by
  have hsorted := @pairwise_mergeSort _ ranksBefore
    (fun a b c hab hbc => by
      rw [ranksBefore_iff] at hab hbc ⊢
      exact hbc.trans hab)
    (fun a b => by
      rw [Bool.or_eq_true, ranksBefore_iff, ranksBefore_iff]
      exact le_total _ _)
    ((texts.map (scored word)).filter fun a => cutoff.le (.double a.1))
  refine pairwise_map.mpr (hsorted.imp_of_mem fun {a b} ha hb hab => ?_)
  -- Every scored text carries the score that its text has.
  have hscored : ∀ a ∈ ((texts.map (scored word)).filter fun a => cutoff.le (.double a.1)).mergeSort ranksBefore,
      scored word a.2 = a := by
    intro a ha
    obtain ⟨t, -, rfl⟩ := mem_map.mp (mem_of_mem_filter (mem_mergeSort.mp ha))
    rfl
  rw [hscored a ha, hscored b hb]
  exact (ranksBefore_iff a b).mp hab

/-- In a list that is ranked by a key, the places of two texts are in the order of their keys. -/
theorem idxOf_le_iff {β : Type} [LinearOrder β] {l : List Text} {key : Text → β} (hkey : Function.Injective key)
    (hl : l.Pairwise fun s t => key t ≤ key s) (hs : s ∈ l) (ht : t ∈ l) :
    l.idxOf s ≤ l.idxOf t ↔ key t ≤ key s := by
  have hlt {s t : Text} (hs : s ∈ l) (ht : t ∈ l) (h : l.idxOf s < l.idxOf t) : key t ≤ key s := by
    simpa using pairwise_iff_getElem.mp hl _ _ (idxOf_lt_length_of_mem hs) (idxOf_lt_length_of_mem ht) h
  constructor
  · intro h
    rcases h.lt_or_eq with h | h
    · exact hlt hs ht h
    · rw [idxOf_inj hs |>.mp h]
  · intro h
    by_contra hle
    obtain rfl := hkey (le_antisymm h (hlt ht hs (not_le.mp hle)))
    exact hle le_rfl

/-- Picking all that read like one of the first `n` gives no more than `n` if and only if none of these is left over. -/
theorem length_filter_take_le_iff (r : List Text) (n : Nat) :
    (r.filter (· ∈ r.take n)).length ≤ n ↔ ∀ t ∈ r.take n, r.count t ≤ (r.take n).count t := by
  have hlength : (r.filter (· ∈ r.take n)).length = (r.take n).length + ((r.drop n).filter (· ∈ r.take n)).length := by
    calc (r.filter (· ∈ r.take n)).length = ((r.take n ++ r.drop n).filter (· ∈ r.take n)).length := by
          rw [take_append_drop]
      _ = (r.take n).length + ((r.drop n).filter (· ∈ r.take n)).length := by
          rw [filter_append, length_append, filter_eq_self.mpr fun t ht => decide_eq_true ht]
  have hcount (t : Text) : r.count t = (r.take n).count t + (r.drop n).count t := by
    rw [← count_append, take_append_drop]
  rw [hlength]
  by_cases hleft : ∃ t ∈ r.drop n, t ∈ r.take n
  · obtain ⟨t, hdrop, htake⟩ := hleft
    have hn := length_pos_of_mem hdrop
    have hfilter : 0 < ((r.drop n).filter (· ∈ r.take n)).length :=
      length_pos_of_mem (mem_filter.mpr ⟨hdrop, decide_eq_true htake⟩)
    rw [length_drop] at hn
    rw [length_take]
    refine iff_of_false (by omega) fun h => ?_
    have := h t htake
    have := count_pos_iff.mpr hdrop
    rw [hcount t] at *
    omega
  · have hnone : (r.drop n).filter (· ∈ r.take n) = [] :=
      filter_eq_nil_iff.mpr fun t ht hmem => hleft ⟨t, ht, of_decide_eq_true hmem⟩
    rw [hnone, length_nil, Nat.add_zero]
    refine iff_of_true (length_take_le n r) fun t ht => ?_
    rw [hcount t, count_eq_zero.mpr fun hmem => hleft ⟨t, hmem, ht⟩, Nat.add_zero]

/-- Those of the list that are among the best are also all of the ranking that are. -/
theorem filter_closest_perm (word : Text) (texts : List Text) (n : Nat) (cutoff : Number) :
    texts.filter (· ∈ closest word texts n cutoff) ~
      (ranking word texts cutoff).filter (· ∈ closest word texts n cutoff) := by
  have hperm := ranking_perm word texts cutoff
  refine (Perm.of_eq ?_).trans (hperm.symm.filter _)
  rw [filter_filter]
  refine filter_congr fun t _ => Bool.eq_iff_iff.mpr ?_
  rw [Bool.and_eq_true, iff_self_and, decide_eq_true_eq, closest_eq_take]
  exact fun hbest => (mem_filter.mp (hperm.mem_iff.mp (mem_of_mem_take hbest))).2

theorem count_of_mem_closest (ht : t ∈ closest word texts n cutoff) :
    (ranking word texts cutoff).count t = texts.count t := by
  have hcount := (filter_closest_perm word texts n cutoff).count_eq t
  rwa [count_filter (by simpa using ht), count_filter (by simpa using ht), eq_comm] at hcount

theorem closest_pairwise (word : Text) (texts : List Text) (n : Nat) (cutoff : Number) :
    (closest word texts n cutoff).Pairwise fun s t => rankKey (scored word t) ≤ rankKey (scored word s) := by
  rw [closest_eq_take]
  exact (ranking_pairwise _ _ _).sublist (take_sublist n _)

end Geoscript.Text

namespace Geoscript.Value
open List Text

theorem mapM_asText (texts : List String) : (texts.map str).mapM asText = .ok (texts.map String.toList) := by
  induction texts with
  | nil => rfl
  | cons t texts ih =>
    rw [map_cons, mapM_cons, ih]
    rfl

theorem closeMatches_eq (word : String) (texts : List String) {n : Nat} (hn : 1 ≤ n) {cutoff : Number}
    (hcutoff : (Number.int 0).le cutoff ∧ cutoff.le (.int 1)) :
    closeMatches (.str word) (.list (texts.map str)) (.int n) (ofNumber cutoff) =
      .ok (.list ((texts.filter fun t => (closest (lower word.toList) (texts.map fun t => lower t.toList) n cutoff).contains
        (lower t.toList)).map str)) := by
  have hpositive : (Number.int 0).lt (.int n) := by
    have hcompare : compare (0 : Int) n = .lt := Int.compare_eq_lt.mpr (by omega)
    have hsign : ¬(n : Int) < 0 := by omega
    simp [Number.lt, Number.compare?, Number.parts, Number.compareScaled, Number.signed, twoPow, hcompare, hsign]
  have hnumber : (ofNumber cutoff).number = .ok cutoff := by cases cutoff <;> rfl
  have hbound : matchCutoff (ofNumber cutoff) = .ok cutoff := by
    simp only [matchCutoff, hnumber, bind, Except.bind, hcutoff.1, hcutoff.2]
    rfl
  have hcount : matchCount (.int n) = .ok n := by
    simp only [matchCount, number, number?, bind, Except.bind, hpositive]
    rfl
  simp only [closeMatches, asText, items, mapM_asText, number, number?, bind, Except.bind, hpositive, hbound, hcount,
    Text.closeMatches, filter_map, map_map, Function.comp_def, String.ofList_toList]
  rfl

/-- The close matches are at most as many as asked for and best first if and only if none that reads like one of the
best is left out of these, and the list has the best in the order of their ranks. -/
theorem matches_best_first_iff (word : String) (texts : List String) {n : Nat} (hn : 1 ≤ n) {cutoff : Number}
    (hcutoff : (Number.int 0).le cutoff ∧ cutoff.le (.int 1)) :
    let small (t : String) : Text := lower t.toList
    let best := closest (small word) (texts.map small) n cutoff
    ∃ found : List String,
      closeMatches (.str word) (.list (texts.map str)) (.int n) (ofNumber cutoff) = .ok (.list (found.map str)) ∧
      found <+ texts ∧ (∀ t, t ∈ found ↔ t ∈ texts ∧ small t ∈ best) ∧
      (found.length ≤ n ∧ (found.map small).Pairwise (fun s t => best.idxOf s ≤ best.idxOf t) ↔
        (∀ t ∈ best, (texts.map small).count t ≤ best.count t) ∧
          texts.Pairwise fun s t => small s ∈ best → small t ∈ best →
            ranksBefore (scored (small word) (small s)) (scored (small word) (small t))) := by
  intro small best
  refine ⟨texts.filter fun t => best.contains (small t), closeMatches_eq word texts hn hcutoff, filter_sublist,
    fun t => by simp, and_congr ?_ ?_⟩
  · have hlength : (texts.filter fun t => best.contains (small t)).length =
        ((texts.map small).filter (· ∈ best)).length := by
      rw [filter_map, length_map]
      simp [Function.comp_def]
    rw [hlength, (filter_closest_perm _ _ _ _).length_eq, closest_eq_take, length_filter_take_le_iff, ← closest_eq_take]
    exact forall₂_congr fun t ht => by rw [count_of_mem_closest ht]
  · rw [pairwise_map, pairwise_filter]
    refine Pairwise.iff fun s t => ?_
    simp only [contains_iff_mem]
    refine forall₂_congr fun hs ht => ?_
    have hkey : Function.Injective fun t => rankKey (scored (small word) t) :=
      fun s t h => (Prod.mk.inj (rankKey_injective h)).2
    rw [ranksBefore_iff]
    exact idxOf_le_iff hkey (closest_pairwise _ _ _ _) hs ht

/-- The better one of two matches comes last if it is given last. -/
theorem two_texts_matched : 1 ≤ 2 ∧ ((Number.int 0).le (.int 0) ∧ (Number.int 0).le (.int 1)) ∧
    let small (t : String) : Text := lower t.toList
    let best := closest (small "abc") (["abd", "abc"].map small) 2 (.int 0)
    ∃ found : List String, closeMatches (.str "abc") (.list (["abd", "abc"].map str)) (.int 2) (ofNumber (.int 0)) =
      .ok (.list (found.map str)) ∧ found <+ ["abd", "abc"] ∧ "abd" ∈ found ∧ "abc" ∈ found ∧
      ¬(found.length ≤ 2 ∧ (found.map small).Pairwise (fun s t => best.idxOf s ≤ best.idxOf t)) := by
  have hcutoff : (Number.int 0).le (.int 0) ∧ (Number.int 0).le (.int 1) := by decide
  refine ⟨by decide, hcutoff, ?_⟩
  intro small best
  have hranking := ranking_perm (small "abc") (["abd", "abc"].map small) (.int 0)
  have hall : ((["abd", "abc"].map small).filter fun t => (Number.int 0).le (.double (similarity (small "abc") t))) =
      ["abd".toList, "abc".toList] := by decide +kernel
  rw [hall] at hranking
  have hbest {t : Text} : t ∈ best ↔ t ∈ ["abd".toList, "abc".toList] := by
    rw [← hranking.mem_iff, ← take_of_length_le (Nat.le_of_eq hranking.length_eq)]
    exact .of_eq (congrArg (t ∈ ·) closest_eq_take)
  have hfirst : small "abd" ∈ best := hbest.mpr (by decide +kernel)
  have hsecond : small "abc" ∈ best := hbest.mpr (by decide +kernel)
  obtain ⟨found, hfound, hsub, hmem, hiff⟩ := @matches_best_first_iff "abc" ["abd", "abc"] 2 (by decide) (.int 0) hcutoff
  refine ⟨found, hfound, hsub, (hmem _).mpr ⟨by simp, hfirst⟩, (hmem _).mpr ⟨by simp, hsecond⟩, fun h => ?_⟩
  have hranks := (pairwise_cons.mp (hiff.mp h).2).1 "abc" (by simp) hfirst hsecond
  revert hranks
  decide +kernel

end Geoscript.Value
