import Geoscript.Proofs.Script.FlagRuns

/-! Which lines the two rules that add a neighbour take: all lines in order, and only for a run at an end of the text
one more. -/

namespace Geoscript.Slot
open List
variable {n : Nat} {slots : List Slot} {s : Text} {before behind : List Int}

/-- The slots of `n` lines take every one of them, and none twice. -/
def UsedOnce (n : Nat) (slots : List Slot) : Prop :=
  ∃ places, (slots.flatMap indices).mapM (elementAt (range n)) = .ok places ∧ places.Perm (range n)

theorem usedOnce_iff (h : slots.flatMap indices = before ++ (numbers 0 n ++ behind)) :
    UsedOnce n slots ↔ before = [] ∧ behind = [] := by
  constructor
  · rintro ⟨places, hplaces, hperm⟩
    have hlength := (forall₂_of_mapM_ok hplaces).length_eq
    rw [h, hperm.length_eq] at hlength
    simp only [numbers, length_append, length_map, length_range] at hlength
    exact ⟨length_eq_zero_iff.mp (by omega), length_eq_zero_iff.mp (by omega)⟩
  · rintro ⟨rfl, rfl⟩
    have hplaces := forall₂_elementAt [] (range n) []
    rw [nil_append, append_nil, length_range] at hplaces
    refine ⟨range n, ?_, .refl _⟩
    rw [h, nil_append, append_nil]
    exact mapM_eq_ok hplaces

theorem flatMap_indices_grouped (marks : List Bool) (is : List Int) :
    ((grouped marks is).map ofGroup).flatMap indices = is := by
  simp only [flatMap_map, indices_ofGroup]
  rw [flatMap_def, map_id'', flatten_grouped]
  exact fun _ => rfl

theorem interval_eq_numbers (n : Nat) : interval 0 ((n : Int) - 1) = numbers 0 n := by
  simp [interval, numbers]

theorem indices_withPrevious (f : Bool) (fs : List Bool) : (withPrevious ((f :: fs).map flag)).flatMap indices =
    (if f then [-1] else []) ++ numbers 0 (f :: fs).length := by
  have hplaces : interval 0 fs.length = numbers 0 (f :: fs).length := by
    rw [← interval_eq_numbers, length_cons]
    exact congrArg _ (by omega)
  rw [← hplaces]
  cases f with
  | false => rw [withPrevious_false, flatMap_indices_grouped]; rfl
  | true =>
    rw [withPrevious_true, flatMap_indices_grouped, interval_cons (by omega)]
    rfl

theorem indices_withNext (f : Bool) (fs : List Bool) : (withNext ((f :: fs).map flag)).flatMap indices =
    (if f then [0] else []) ++ (numbers 0 (f :: fs).length ++
      if (f :: fs).getLast? = some true then [((f :: fs).length : Int)] else []) := by
  have hplaces : interval 0 (reach (f :: fs)) = numbers 0 (f :: fs).length ++
      if (f :: fs).getLast? = some true then [((f :: fs).length : Int)] else [] := by
    rw [← interval_eq_numbers, reach]
    split
    · rw [interval_concat (by omega), Int.sub_add_cancel]
    · rw [Int.add_zero, append_nil]
  rw [withNext_eq, flatMap_append, flatMap_indices_grouped, hplaces]
  cases f <;> rfl

theorem exists_flags (h : ∀ c ∈ s, c = '0' ∨ c = '1') : ∃ fs : List Bool, s = fs.map flag := by
  refine ⟨s.map (· == '1'), (map_id s).symm.trans ?_⟩
  rw [map_map]
  refine map_congr_left fun c hc => ?_
  rcases h c hc with rfl | rfl <;> rfl

/-- The rules take all lines in order. The one that adds the line before a run takes the place before the first line
too if that line is flagged; the one that adds the line behind takes the first line again then, and the place behind
the last line if this one is flagged. So a line is lost or taken twice for such runs only. -/
theorem merge_rules_cover (hne : s ≠ []) (h : ∀ c ∈ s, c = '0' ∨ c = '1') :
    (withPrevious s).flatMap indices = (if s.head? = some '1' then [-1] else []) ++ numbers 0 s.length ∧
    (withNext s).flatMap indices = 0 :: (if s.head? = some '1' then [0] else []) ++ numbers 1 (s.length - 1) ++
      (if s.getLast? = some '1' then [(s.length : Int)] else []) ∧
    (UsedOnce s.length (withPrevious s) ↔ s.head? ≠ some '1') ∧
    (UsedOnce s.length (withNext s) ↔ s.head? ≠ some '1' ∧ s.getLast? ≠ some '1') := by
  obtain ⟨fs, rfl⟩ := exists_flags h
  cases fs with
  | nil => exact absurd rfl hne
  | cons f fs =>
    have hflag (o : Option Bool) : o.map flag = some '1' ↔ o = some true := by
      rcases o with _ | _ | _ <;> decide
    have hprevious := indices_withPrevious f fs
    have hnext := indices_withNext f fs
    simp only [ne_eq, head?_map, getLast?_map, hflag, length_map, head?_cons, Option.some.injEq]
    refine ⟨hprevious, hnext.trans ?_, (usedOnce_iff (by rw [hprevious, append_nil])).trans ?_,
      (usedOnce_iff hnext).trans ?_⟩
    · rw [length_cons, numbers_succ]
      cases f <;> rfl
    · cases f <;> simp
    · cases f <;> simp

/-- A run at the start, one inside, and one at the end. -/
theorem three_texts_covered : UsedOnce 4 (withPrevious "0110".toList) ∧ UsedOnce 4 (withNext "0110".toList) ∧
    (withPrevious "1001".toList).flatMap indices = [-1, 0, 1, 2, 3] ∧
    (withNext "1001".toList).flatMap indices = [0, 0, 1, 2, 3, 4] ∧
    ¬UsedOnce 4 (withPrevious "1001".toList) ∧ ¬UsedOnce 2 (withNext "01".toList) := by
  obtain ⟨-, -, hprevious, hnext⟩ := merge_rules_cover (show "0110".toList ≠ [] by decide) (by simp)
  obtain ⟨hbefore, hbehind, hstart, -⟩ := merge_rules_cover (show "1001".toList ≠ [] by decide) (by simp)
  obtain ⟨-, -, -, hend⟩ := merge_rules_cover (show "01".toList ≠ [] by decide) (by simp)
  exact ⟨hprevious.mpr (by decide), hnext.mpr (by decide), hbefore, hbehind, fun h => hstart.mp h rfl,
    fun h => (hend.mp h).2 rfl⟩

end Geoscript.Slot
