import Geoscript.River.Morphology

/-! The kernels of a pattern. The marks of a matrix replace its cells, so whoever marks the matrix again sees the marks
(`run_splitPattern`). The pixels that a pattern wants clear are looked for among zeros and ones, and none is found. -/

namespace Geoscript.River
open List Graph
variable {wanted : Int} {rows : List (List Int)}

/-- One where a matrix has the wanted number and zero elsewhere. -/
def marks (wanted : Int) (rows : List (List Int)) : List (List Int) :=
  rows.map fun row => row.map fun v => if v = wanted then 1 else 0

/-- A matrix of the same size, with zeros. -/
def blank (rows : List (List Int)) : List (List Int) :=
  rows.map fun row => row.map fun _ => 0

def Rectangular (rows : List (List Int)) : Prop :=
  ∃ width, ∀ row ∈ rows, row.length = width

theorem Rectangular.marks (h : Rectangular rows) (wanted : Int) : Rectangular (marks wanted rows) := by
  obtain ⟨width, hwidth⟩ := h
  refine ⟨width, fun row hrow => ?_⟩
  obtain ⟨old, hold, rfl⟩ := mem_map.mp hrow
  rw [length_map, hwidth old hold]

theorem marks_ne_nil (h : rows ≠ []) : marks wanted rows ≠ [] := by
  simpa [marks] using h

/-! ### One marking -/

theorem same_int (a b : Int) : (Value.int a).same (.int b) = decide (a = b) := by
  have hsigned (i : Int) : Number.signed (decide (i < 0)) i.natAbs = i := by
    by_cases hi : i < 0
    · rw [decide_eq_true hi]
      exact (Int.eq_neg_natAbs_of_nonpos (by omega)).symm
    · rw [decide_eq_false hi]
      exact Int.natAbs_of_nonneg (by omega)
  have hcompare : (Number.int a).compare? (.int b) = some (compare (a * 1) (b * 1)) := by
    simp only [Number.compare?, Number.parts, Number.compareScaled, hsigned]
    rfl
  have hsame : (Value.int a).same (.int b) = ((Number.int a).compare? (.int b) == some .eq) := rfl
  rw [hsame, hcompare, Int.mul_one, Int.mul_one]
  by_cases h : a = b <;> simp [h]

theorem markRow_ints (wanted : Int) (row : List Int) : markRow (.int wanted) row.length (row.map Value.int) =
      .ok ((row.map fun v => if v = wanted then 1 else 0).map Value.int) := by
  induction row with
  | nil => rfl
  | cons v row ih =>
    rw [map_cons, length_cons, markRow, ih, same_int]
    simp only [decide_eq_true_eq]
    rfl

theorem mapM_markRow {width : Nat} (h : ∀ row ∈ rows, row.length = width) :
    (ofInts rows).mapM (markRow (.int wanted) width) = .ok (ofInts (marks wanted rows)) := by
  induction rows with
  | nil => rfl
  | cons row rows ih =>
    obtain ⟨rfl, hrows⟩ := forall_mem_cons.mp h
    have hrest := ih hrows
    rw [ofInts] at hrest ⊢
    rw [map_cons, mapM_cons, markRow_ints, hrest]
    rfl

theorem marks_marks (rows : List (List Int)) : marks 2 (marks 1 rows) = blank rows := by
  simp only [marks, blank, map_map]
  refine map_congr_left fun row _ => ?_
  rw [Function.comp_apply, map_map]
  refine map_congr_left fun v _ => ?_
  rw [Function.comp_apply]
  split <;> rfl

section Runs
variable (hne : rows ≠ []) (hrect : Rectangular rows)
include hne hrect

/-- A matrix of numbers is replaced by the marks of it. -/
theorem run_splitPattern :
    (splitPattern (.int wanted)).run (ofInts rows) = .ok (ofInts (marks wanted rows), ofInts (marks wanted rows)) := by
  have hmarked : markAll (.int wanted) (ofInts rows) = .ok (ofInts (marks wanted rows)) := by
    obtain ⟨width, hwidth⟩ := hrect
    obtain ⟨row, rest, rfl⟩ := exists_cons_of_ne_nil hne
    rw [← mapM_markRow hwidth, ← hwidth row mem_cons_self]
    simp [markAll, ofInts]
  simp only [splitPattern, StateT.run_bind, StateT.run_get, pure_bind, hmarked]
  rfl

theorem run_splitPattern_marks : (splitPattern (.int 2)).run (ofInts (marks 1 rows)) =
    .ok (ofInts (blank rows), ofInts (blank rows)) := by
  rw [run_splitPattern (marks_ne_nil hne) (hrect.marks 1), marks_marks]

/-! ### Two markings -/

/-- Marks the pixels to be set, and then, in the same matrix, those to be clear. -/
def splitBoth : StateT Pattern (Except Failure) (Pattern × Pattern) := do
  let hit ← splitPattern (.int 1)
  let miss ← splitPattern (.int 2)
  return (hit, miss)

theorem run_splitBoth :
    splitBoth.run (ofInts rows) = .ok ((ofInts (marks 1 rows), ofInts (blank rows)), ofInts (blank rows)) := by
  rw [splitBoth, StateT.run_bind, run_splitPattern hne hrect]
  show Except.bind ((splitPattern (.int 2)).run (ofInts (marks 1 rows))) _ = _
  rw [run_splitPattern_marks hne hrect]
  rfl

/-- Of the two kernels that a pattern becomes, the second one looks at no pixel. -/
theorem hitAndMiss_eq : hitAndMiss rows = do
    return (← (kernel3 (ofInts (marks 1 rows))).share, ← (kernel3 (ofInts (blank rows))).share) := by
  simp only [hitAndMiss, run_splitPattern hne hrect, lift, pure_bind, run_splitPattern_marks hne hrect]

end Runs

theorem ofInts_inj {rows rows' : List (List Int)} : ofInts rows = ofInts rows' ↔ rows = rows' := by
  exact map_inj_right fun _ _ => (map_inj_right fun _ _ => Value.int.inj).mp

theorem blank_eq_marks_iff : blank rows = marks wanted rows ↔ ∀ row ∈ rows, wanted ∉ row := by
  unfold blank marks
  rw [map_inj_left]
  refine forall₂_congr fun row _ => ?_
  rw [map_inj_left]
  constructor
  · intro h hmem
    simpa using h wanted hmem
  · intro h v hv
    have hne : v ≠ wanted := fun heq => h (heq ▸ hv)
    rw [if_neg hne]

/-- The two calls for a pattern give the pixels that it wants set and those that it wants clear just if it has rows and
wants none clear. The second call sees the marks of the first one, and finds nothing. -/
theorem kernels_from_pattern_iff (hrect : Rectangular rows) :
    ((∃ s, splitBoth.run (ofInts rows) = .ok ((ofInts (marks 1 rows), ofInts (marks 2 rows)), s)) ↔
      rows ≠ [] ∧ ∀ row ∈ rows, 2 ∉ row) ∧
    (rows ≠ [] →
      splitBoth.run (ofInts rows) = .ok ((ofInts (marks 1 rows), ofInts (blank rows)), ofInts (blank rows)) ∧
      hitAndMiss rows = do
        return (← (kernel3 (ofInts (marks 1 rows))).share, ← (kernel3 (ofInts (blank rows))).share)) := by
  refine ⟨?_, fun hne => ⟨run_splitBoth hne hrect, hitAndMiss_eq hne hrect⟩⟩
  by_cases hne : rows = []
  · subst hne
    refine ⟨?_, fun h => absurd rfl h.1⟩
    rintro ⟨s, hs⟩
    cases hs
  · rw [← blank_eq_marks_iff, run_splitBoth hne hrect]
    constructor
    · rintro ⟨s, hs⟩
      have hpair := (Prod.mk.inj (Except.ok.inj hs)).1
      exact ⟨hne, ofInts_inj.mp (Prod.mk.inj hpair).2⟩
    · rintro ⟨-, heq⟩
      exact ⟨_, by rw [heq]⟩

/-- The pattern of the end of a line wants five pixels clear. -/
theorem end_pattern_without_misses : Rectangular [[0, 0, 0], [2, 1, 2], [2, 2, 2]] ∧
    splitBoth.run (ofInts [[0, 0, 0], [2, 1, 2], [2, 2, 2]]) =
      .ok ((ofInts [[0, 0, 0], [0, 1, 0], [0, 0, 0]], ofInts [[0, 0, 0], [0, 0, 0], [0, 0, 0]]),
        ofInts [[0, 0, 0], [0, 0, 0], [0, 0, 0]]) ∧
    marks 2 [[0, 0, 0], [2, 1, 2], [2, 2, 2]] = [[0, 0, 0], [1, 0, 1], [1, 1, 1]] ∧
    ¬∃ s, splitBoth.run (ofInts [[0, 0, 0], [2, 1, 2], [2, 2, 2]]) =
      .ok ((ofInts [[0, 0, 0], [0, 1, 0], [0, 0, 0]], ofInts [[0, 0, 0], [1, 0, 1], [1, 1, 1]]), s) := by
  have hrect : Rectangular [[0, 0, 0], [2, 1, 2], [2, 2, 2]] := ⟨3, by decide⟩
  obtain ⟨hiff, hruns⟩ := kernels_from_pattern_iff hrect
  exact ⟨hrect, (hruns (by decide)).1, by decide, fun h => absurd (hiff.mp h).2 (by decide)⟩

end Geoscript.River
