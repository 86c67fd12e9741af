import Geoscript.Number.Double
import Geoscript.Proofs.Script.CountedLoop

/-! The values of a loop that counts. A header counts with doubles (`Header.Visits`). The loop over a range that it
becomes (`RangeLoop`) counts with whole numbers; its ends are read after a variable has been defined, by a name that
the word before it may have become a part of. The body of a loop leaves its variable alone. -/

namespace Geoscript.Script
open List
open Text hiding count

/-! ### Doubles -/

section
variable {m n d : Nat} {i x y : Int}

theorem roundDiv_mul (hd : 0 < d) (n : Nat) : Double.roundDiv (n * d) d = n := by
  rw [Double.roundDiv, Nat.mul_div_cancel n hd, Nat.mul_mod_left]
  exact if_neg (by omega)

theorem roundDiv_mono (h : m ≤ n) : Double.roundDiv m d ≤ Double.roundDiv n d := by
  have hquotient := Nat.div_le_div_right (c := d) h
  have hm := Nat.div_add_mod m d
  have hn := Nat.div_add_mod n d
  simp only [Double.roundDiv]
  rcases Nat.eq_or_lt_of_le hquotient with heq | hlt
  · rw [heq] at hm ⊢
    split <;> split <;> omega
  · split <;> split <;> omega

/-- The double that is nearest to a number, the even one if there are two. Beyond them all stands the first power of two
that is none. -/
def nearestNat (n : Nat) : Nat :=
  let unit := twoPow (n.log2 - 52)
  min (Double.roundDiv n unit * unit) (twoPow 1024)

def nearest (i : Int) : Int :=
  if i < 0 then -(nearestNat i.natAbs : Int) else nearestNat i.natAbs

theorem nearestNat_mono (h : m ≤ n) : nearestNat m ≤ nearestNat n := by
  refine Nat.le_min.mpr ⟨Nat.le_trans (Nat.min_le_left ..) ?_, Nat.min_le_right ..⟩
  have hlog : m.log2 - 52 ≤ n.log2 - 52 := by
    by_cases hm : m = 0
    · simp [hm]
    · exact Nat.sub_le_sub_right ((Nat.le_log2 (by omega)).mpr (Nat.le_trans (Nat.log2_self_le hm) h)) 52
  generalize hj : m.log2 - 52 = j at *
  generalize hk : n.log2 - 52 = k at *
  rcases Nat.eq_or_lt_of_le hlog with rfl | hlt
  · exact Nat.mul_le_mul_right _ (roundDiv_mono h)
  · -- A power of two lies between the two: it has 53 digits in the smaller unit and is a double in both.
    have hbelow : m ≤ 2 ^ 53 * 2 ^ j := by
      rw [← Nat.pow_add]
      exact Nat.le_trans (Nat.le_of_lt Nat.lt_log2_self) (Nat.pow_le_pow_right (by decide) (by omega))
    have habove : 2 ^ 52 * 2 ^ k ≤ n := by
      rw [← Nat.pow_add, ← hk, Nat.add_sub_cancel' (by omega)]
      refine Nat.log2_self_le fun hn => ?_
      simp [hn] at hk
      omega
    have hm := roundDiv_mono (d := 2 ^ j) hbelow
    have hn := roundDiv_mono (d := 2 ^ k) habove
    rw [roundDiv_mul (Nat.two_pow_pos _)] at hm hn
    calc Double.roundDiv m (2 ^ j) * 2 ^ j
      _ ≤ 2 ^ 53 * 2 ^ j := Nat.mul_le_mul_right _ hm
      _ = 2 ^ 52 * 2 ^ (j + 1) := by rw [Nat.pow_succ]; omega
      _ ≤ 2 ^ 52 * 2 ^ k := Nat.mul_le_mul_left _ (Nat.pow_le_pow_right (by decide) hlt)
      _ ≤ _ := Nat.mul_le_mul_right _ hn

theorem nearestNat_of_le (h : n ≤ twoPow 53) : nearestNat n = n := by
  have hroom (k : Nat) (hk : 53 ≤ k) : n ≤ twoPow k := Nat.le_trans h (Nat.pow_le_pow_right (by decide) hk)
  rcases Nat.eq_or_lt_of_le h with rfl | hlt
  · decide +kernel
  · have hlog : n.log2 - 52 = 0 := by
      by_cases hn : n = 0
      · simp [hn]
      · have := (Nat.log2_lt (k := 53) hn).mpr hlt
        omega
    have hround := roundDiv_mul Nat.zero_lt_one n
    rw [Nat.mul_one] at hround
    have hunit : twoPow 0 = 1 := rfl
    simp only [nearestNat, hlog, hunit, Nat.mul_one, hround]
    exact Nat.min_eq_left (hroom 1024 (by decide))

theorem nearest_mono (h : x ≤ y) : nearest x ≤ nearest y := by
  unfold nearest
  by_cases hy : y < 0
  · rw [if_pos (Int.lt_of_le_of_lt h hy), if_pos hy]
    have := @nearestNat_mono y.natAbs x.natAbs (by omega)
    omega
  · rw [if_neg hy]
    split
    · omega
    · exact Int.ofNat_le.mpr (nearestNat_mono (by omega))

theorem nearest_of_le (h : i.natAbs ≤ twoPow 53) : nearest i = i := by
  rw [nearest, nearestNat_of_le h]
  split <;> omega

end

/-! ### Loops -/

def Comparison.Holds : Comparison → Int → Int → Prop
  | .le, x, y => x ≤ y
  | .lt, x, y => x < y
  | .gt, x, y => x > y
  | .ge, x, y => x ≥ y
  | .eq, x, y => x = y
  | .ne, x, y => x ≠ y

/-- The values that a loop visits from a value on: it goes on as long as its condition holds, and changes its variable
after each round. -/
inductive Visits (goes : Int → Prop) (after : Int → Int) : Int → List Int → Prop where
  | done {x : Int} (h : ¬goes x) : Visits goes after x []
  | next {x : Int} {l : List Int} (h : goes x) (rest : Visits goes after (after x) l) : Visits goes after x (x :: l)

section
variable {goes : Int → Prop} {after : Int → Int} {x y : Int} {l l' : List Int}

theorem Visits.unique (h : Visits goes after x l) (h' : Visits goes after x l') : l' = l := by
  induction h generalizing l' with
  | done hnot =>
    cases h' with
    | done => rfl
    | next hholds => exact absurd hholds hnot
  | next hholds _ ih =>
    cases h' with
    | done hnot => exact absurd hholds hnot
    | next _ rest => rw [ih rest]

theorem visits_nil_iff : Visits goes after x [] ↔ ¬goes x :=
  ⟨fun h => by cases h; assumption, .done⟩

theorem visits_cons_iff : Visits goes after x (y :: l) ↔ x = y ∧ goes y ∧ Visits goes after (after y) l := by
  constructor
  · intro h
    cases h with
    | next hholds rest => exact ⟨rfl, hholds, rest⟩
  · rintro ⟨rfl, hholds, rest⟩
    exact .next hholds rest

end

/-- The numbers of a header that counts by one. -/
structure Header where
  first : Int
  op : Comparison
  bound : Int
  stride : Stride

/-- The values that a header visits. Its numbers are doubles, and so are the values. -/
def Header.Visits (h : Header) : List Int → Prop :=
  Script.Visits (h.op.Holds · (nearest h.bound)) (fun x => nearest (x + h.stride.amount)) (nearest h.first)

/-! ### Ranges -/

variable {w : Text} {a b start stop : Int} {l : List Int} {op : Comparison} {stride : Stride}

/-- The values of a range with a step of one, up or down. -/
def rangeValues (start stop : Int) (stride : Stride) : List Int :=
  (range (stride.amount * (stop - start)).toNat).map fun (i : Nat) => start + stride.amount * i

theorem rangeValues_nil (h : ¬0 < stride.amount * (stop - start)) : rangeValues start stop stride = [] := by
  rw [rangeValues, Int.toNat_of_nonpos (by omega)]
  rfl

theorem rangeValues_cons (h : 0 < stride.amount * (stop - start)) :
    rangeValues start stop stride = start :: rangeValues (start + stride.amount) stop stride := by
  have hlength : (stride.amount * (stop - start)).toNat =
      (stride.amount * (stop - (start + stride.amount))).toNat + 1 := by
    cases stride <;> simp only [Stride.amount] at h ⊢ <;> omega
  rw [rangeValues, hlength, range_succ_eq_map, map_cons, map_map, rangeValues]
  congr 1
  · simp
  · refine map_congr_left fun i _ => ?_
    cases stride <;> simp only [Stride.amount, Function.comp_apply] <;> omega

/-- The first number behind those for which a condition that counts up holds. -/
def Comparison.behind : Comparison → Int → Int
  | .le, b => b + 1
  | _, b => b

theorem visits_rangeValues {goes : Int → Prop} {after : Int → Int} (hgoes : ∀ i, goes i ↔ i < stop)
    (hafter : ∀ i, start ≤ i → i < stop → after i = i + 1) : Visits goes after start (rangeValues start stop .up) := by
  induction hn : (stop - start).toNat generalizing start with
  | zero =>
    rw [rangeValues_nil (by simp only [Stride.amount]; omega)]
    exact .done fun h => by have := (hgoes start).mp h; omega
  | succ n ih =>
    rw [rangeValues_cons (by simp only [Stride.amount]; omega)]
    refine .next ((hgoes start).mpr (by omega)) ?_
    rw [hafter start (Int.le_refl _) (by omega)]
    exact ih (fun i hi => hafter i (by omega)) (by omega)

/-- Up to the 53rd power of two all whole numbers are doubles. -/
theorem visits_of_le (hop : op = .lt ∨ op = .le) (ha : a.natAbs ≤ twoPow 53) (hb : b.natAbs < twoPow 53) :
    Header.Visits ⟨a, op, b, .up⟩ (rangeValues a (op.behind b) .up) := by
  have hholds (i : Int) : op.Holds i b ↔ i < op.behind b := by
    rcases hop with rfl | rfl
    · exact .rfl
    · exact Int.lt_add_one_iff.symm
  have hstop : (op.behind b).natAbs ≤ twoPow 53 := by
    rcases hop with rfl | rfl <;> simp only [Comparison.behind] <;> omega
  rw [Header.Visits, nearest_of_le ha, nearest_of_le (Nat.le_of_lt hb)]
  exact visits_rangeValues hholds fun i hi hlt => nearest_of_le (by simp only [Stride.amount]; omega)

/-! ### Loops over ranges -/

structure Identifier where
  text : Text
  isVariable : IsVariable text

/-- The variable that is defined instead of one. -/
def Identifier.declared (v : Identifier) : Identifier :=
  ⟨declaredAs v.text, v.isVariable.declaredAs⟩

/-- The whole numbers that are not too long to be written in decimal. -/
def Writable (i : Int) : Prop :=
  i.natAbs < tenPow 4300

instance : DecidablePred Writable := fun i => inferInstanceAs (Decidable (i.natAbs < tenPow 4300))

theorem writable_of_le {i : Int} (h : i.natAbs ≤ twoPow 53) : Writable i := by
  have hroom (k : Nat) (hk : 16 ≤ k) : 10 ^ 16 ≤ tenPow k := Nat.pow_le_pow_right (by decide) hk
  have hlong := hroom 4300 (by decide)
  exact Nat.lt_of_lt_of_le (Nat.lt_of_le_of_lt h (by decide)) hlong

/-- Whether a name of known characters can be assigned to. -/
def assignable (v : Text) : Bool :=
  !v.head?.any Char.isDigit && !(reservedWords.any fun word => word.toList == v) && v != "__debug__"

/-- The names that can be assigned to without losing the range. -/
def Usable (v : Text) : Prop :=
  assignable v ∧ v ≠ "range"

instance : DecidablePred Usable := fun _ => inferInstanceAs (Decidable (_ ∧ _))

inductive Bound where
  | number (i : Int)
  | name (v : Identifier)
  | successor (e : Bound)

namespace Bound

def written : Bound → Text
  | number i => decimal i
  | name v => v.text
  | successor e => "(" ++ e.written ++ " + 1)"

/-- The value of an expression where `v` is defined as `a`, and nothing else is. -/
def value (v : Identifier) (a : Int) : Bound → Option Int
  | number i => if Writable i then some i else none
  | name u => if u.text = v.text then some a else none
  | successor e => (e.value v a).map (· + 1)

end Bound

/-- A variable that is defined as a number, and one that then runs through a range. -/
structure RangeLoop where
  defined : Identifier
  first : Int
  counter : Identifier
  start : Bound
  stop : Bound
  stride : Stride

namespace RangeLoop
variable {r : RangeLoop}

/-- The two lines of a loop with an indentation. -/
def written (w : Text) (r : RangeLoop) : Text :=
  w ++ rangeLines w r.defined.text r.counter.text r.first r.start.written r.stop.written r.stride.amount

/-- The lines can be run up to the ends of the range: the names can be assigned to, and the range is still there after
the definition. -/
def Runs (r : RangeLoop) : Prop :=
  Usable r.defined.text ∧ assignable r.counter.text ∧ Writable r.first

instance (r : RangeLoop) : Decidable r.Runs :=
  inferInstanceAs (Decidable (_ ∧ _))

/-- The values of the range, if its ends have values. -/
def range? (r : RangeLoop) : Option (List Int) := do
  let start ← r.start.value r.defined r.first
  let stop ← r.stop.value r.defined r.first
  return rangeValues start stop r.stride

/-- The values that the variable runs through, if the lines can be run. -/
def values (r : RangeLoop) : Option (List Int) :=
  if r.Runs then r.range? else none

/-- The loop runs through the values of a header. -/
def Keeps (r : RangeLoop) (h : Header) : Prop :=
  ∃ l, h.Visits l ∧ r.values = some l

theorem keeps_iff {h : Header} (hsame : r.counter = r.defined)
    (hrange : r.range? = if Writable b then some l else none) :
    r.Keeps h ↔ Usable r.defined.text ∧ Writable r.first ∧ Writable b ∧ h.Visits l := by
  have hruns : r.Runs ↔ Usable r.defined.text ∧ Writable r.first := by
    rw [Runs, hsame]
    exact and_congr_right fun h => and_iff_right h.1
  rw [← and_assoc, ← hruns]
  by_cases hr : r.Runs <;> by_cases hb : Writable b <;> simp [Keeps, values, hrange, hr, hb]

end RangeLoop

/-! ### Counting up -/

theorem declared_text_eq_iff (v : Identifier) : v.declared.text = v.text ↔ declarable v.text := by
  simp only [Identifier.declared, declaredAs]
  split
  · next h => simp [h]
  · next h =>
    refine iff_of_false (fun heq => ?_) h
    have hlength := congrArg length heq
    simp at hlength
    omega

theorem text_ne_declared {v : Identifier} (h : declarable v.text = false) : v.text ≠ v.declared.text := fun heq =>
  Bool.false_ne_true (h.symm.trans ((declared_text_eq_iff v).mp heq.symm))

theorem Identifier.declared_eq {v : Identifier} (h : declarable v.text) : v.declared = v := by
  cases v
  simp [declared, declaredAs, h]

/-- A variable that runs upwards from its own value, after one has been defined. -/
def countingUp (defined v : Identifier) (a : Int) (stop : Bound) : RangeLoop :=
  ⟨defined, a, v, .name v, stop, .up⟩

/-- The stop of the range for a condition that counts up. -/
def Comparison.stopBound : Comparison → Int → Bound
  | .le, b => .successor (.number b)
  | _, b => .number b

theorem countingUp_keeps_iff {v : Identifier} {h : Header} (hknown : ∀ c ∈ v.text, nameSet.has c)
    (hop : op = .lt ∨ op = .le) : (countingUp v.declared v a (op.stopBound b)).Keeps h ↔
      Usable v.text ∧ Writable a ∧ Writable b ∧ h.Visits (rangeValues a (op.behind b) .up) := by
  rw [Identifier.declared_eq (declarable_of_known hknown)]
  have hrange : (countingUp v v a (op.stopBound b)).range? =
      if Writable b then some (rangeValues a (op.behind b) .up) else none := by
    rcases hop with rfl | rfl <;> by_cases hb : Writable b <;>
      simp [RangeLoop.range?, countingUp, Comparison.stopBound, Comparison.behind, Bound.value, hb]
  exact RangeLoop.keeps_iff rfl hrange

/-- A loop that counts up becomes two lines: its variable is defined, and then it runs from its own value to the number
of the condition, or to the next one if the condition allows the number itself. The definition is that of another
variable if the name is not declared as such, and then the lines cannot be run. A name of known characters keeps the
values of the header if and only if it can be assigned to and is not that of the range, the numbers are not too long, and
the header visits the numbers between them, which it does up to the 53rd power of two. -/
theorem counting_up_kept_iff (hw : Indent w) (v : Identifier) (a b : Int) (hop : op = .lt ∨ op = .le) :
    convertForLoops (countingHeader w v.text a op b .up) = .ok ((countingUp v.declared v a (op.stopBound b)).written w) ∧
    (convertForLoops (countingHeader w v.text a op b .up) = .ok ((countingUp v v a (op.stopBound b)).written w) ↔
      declarable v.text) ∧
    (declarable v.text = false → (countingUp v.declared v a (op.stopBound b)).values = none) ∧
    ((∀ c ∈ v.text, nameSet.has c) →
      ((countingUp v.declared v a (op.stopBound b)).Keeps ⟨a, op, b, .up⟩ ↔ Usable v.text ∧ Writable a ∧ Writable b ∧
        Header.Visits ⟨a, op, b, .up⟩ (rangeValues a (op.behind b) .up)) ∧
      (a.natAbs ≤ twoPow 53 → b.natAbs < twoPow 53 →
        ((countingUp v.declared v a (op.stopBound b)).Keeps ⟨a, op, b, .up⟩ ↔ Usable v.text))) := by
  have htext : convertForLoops (countingHeader w v.text a op b .up) =
      .ok ((countingUp v.declared v a (op.stopBound b)).written w) := by
    rcases hop with rfl | rfl <;> exact convertForLoops_countingHeader hw v.isVariable
  refine ⟨htext, ?_, fun hnot => ?_, fun hknown => ?_⟩
  · rw [htext, Except.ok.injEq, ← declared_text_eq_iff]
    simp only [RangeLoop.written, rangeLines, countingUp, append_assoc, append_cancel_left_eq, append_cancel_right_eq]
  · have hother := text_ne_declared hnot
    simp [RangeLoop.values, RangeLoop.range?, countingUp, Bound.value, hother]
  · have hkeeps := @countingUp_keeps_iff a b op v ⟨a, op, b, .up⟩ hknown hop
    refine ⟨hkeeps, fun ha hb => hkeeps.trans (and_iff_left ?_)⟩
    exact ⟨writable_of_le ha, writable_of_le (Nat.le_of_lt hb), visits_of_le hop ha hb⟩

def counterI : Identifier :=
  ⟨['i'], isVariable_of_all (by decide) rfl⟩

/-- A name that is not declared as such. -/
def counterE : Identifier :=
  ⟨['é'], isVariable_of_all (by decide) rfl⟩

/-- The name of the range itself. -/
def counterRange : Identifier :=
  ⟨"range", isVariable_of_all (by decide) rfl⟩

/-- The first number with no double one above it. -/
def gap : Int := 9007199254740992

/-- A name that is not known is not defined, that of the range is lost, and no double is beyond a bound that is too
large. -/
theorem plain_counter_kept_others_not : Indent "  " ∧ Indent [] ∧
    convertForLoops "  for (var i = 3; i <= 5; i++) \x7b" = .ok "  i=3\n  for i in range(i, (5 + 1), 1):\n" ∧
    (countingUp counterI.declared counterI 3 (.successor (.number 5))).Keeps ⟨3, .le, 5, .up⟩ ∧
    convertForLoops "for (var é = 3; é < 5; é++) \x7b" = .ok "varé=3\nfor é in range(é, 5, 1):\n" ∧
    (countingUp counterE.declared counterE 3 (.number 5)).values = none ∧
    ¬(countingUp counterRange.declared counterRange 3 (.number 5)).Keeps ⟨3, .lt, 5, .up⟩ ∧
    ¬(countingUp counterI.declared counterI gap (.successor (.number gap))).Keeps ⟨gap, .le, gap, .up⟩ := by
  have hindent : Indent "  " := by
    intro c hc
    simpa using hc
  obtain ⟨htext, -, -, hkept⟩ := counting_up_kept_iff hindent counterI 3 5 (.inr rfl)
  obtain ⟨htext', -, hundefined, -⟩ := counting_up_kept_iff .nil counterE 3 5 (.inl rfl)
  obtain ⟨-, -, -, hrange⟩ := counting_up_kept_iff .nil counterRange 3 5 (.inl rfl)
  obtain ⟨-, -, -, hlarge⟩ := counting_up_kept_iff .nil counterI gap gap (.inr rfl)
  refine ⟨hindent, .nil, htext, ((hkept (all_eq_true.mp rfl)).2 (by decide) (by decide)).mpr (by decide), htext',
    hundefined (by decide), fun h => ?_, fun h => ?_⟩
  · exact absurd (((hrange (all_eq_true.mp rfl)).2 (by decide) (by decide)).mp h) (by decide)
  · have hvisits := ((hlarge (all_eq_true.mp rfl)).1.mp h).2.2.2
    have hvalues : rangeValues gap (gap + 1) .up = [gap] := by decide +kernel
    have hagain : nearest (gap + Stride.up.amount) ≤ nearest gap := by decide +kernel
    simp only [Comparison.behind, hvalues, Header.Visits, visits_cons_iff, visits_nil_iff] at hvisits
    exact hvisits.2.2 hagain

/-! ### Counting down -/

/-- A variable that stops before its own value on the way down, after one has been defined. -/
def countingDown (defined v : Identifier) (a b : Int) : RangeLoop :=
  ⟨defined, a, v, .number b, .name v, .down⟩

theorem visits_down_iff : Header.Visits ⟨a, .gt, b, .down⟩ (rangeValues b a .down) ↔ b ≤ a ∧ nearest a = nearest b := by
  by_cases hle : b ≤ a
  · have hmono := nearest_mono hle
    have hnil : rangeValues b a .down = [] := rangeValues_nil (by simp only [Stride.amount]; omega)
    rw [hnil, and_iff_right hle]
    refine visits_nil_iff.trans ?_
    simp only [Comparison.Holds]
    omega
  · have hmono := nearest_mono (Int.le_of_not_le hle)
    have hcons := @rangeValues_cons b a .down (by simp only [Stride.amount]; omega)
    rw [hcons]
    refine visits_cons_iff.trans (iff_of_false ?_ fun h => hle h.1)
    rintro ⟨hfirst, hgoes, -⟩
    simp only [Comparison.Holds] at hfirst hgoes
    omega

theorem countingDown_keeps_iff {v : Identifier} (hknown : ∀ c ∈ v.text, nameSet.has c) :
    (countingDown v.declared v a b).Keeps ⟨a, .gt, b, .down⟩ ↔
      Usable v.text ∧ Writable a ∧ Writable b ∧ b ≤ a ∧ nearest a = nearest b := by
  rw [Identifier.declared_eq (declarable_of_known hknown)]
  have hrange : (countingDown v v a b).range? = if Writable b then some (rangeValues b a .down) else none := by
    by_cases hb : Writable b <;> simp [RangeLoop.range?, countingDown, Bound.value, hb]
  rw [RangeLoop.keeps_iff rfl hrange, visits_down_iff]
  rfl

theorem equals_not_mem_written (e : Bound) : '=' ∉ e.written := by
  induction e with
  | number i => exact not_mem_decimal rfl (by decide)
  | name v => exact v.isVariable.not_mem '=' rfl
  | successor e ih => simp [Bound.written, ih]

theorem count_equals_written (hw : Indent w) (r : RangeLoop) : count '=' (r.written w) = 1 := by
  have hindent : count '=' w = 0 := count_eq_zero.mpr (hw.not_mem (by decide))
  have hname (v : Identifier) := v.isVariable.count_eq_zero '=' rfl
  have hnumber {i : Int} := @count_decimal i '=' rfl (by decide)
  have hbound (e : Bound) : count '=' e.written = 0 :=
    count_eq_zero.mpr (equals_not_mem_written e)
  simp [RangeLoop.written, rangeLines, hindent, hname, hnumber, hbound]

/-- A loop that counts down becomes two lines whose range starts at the number of the condition and stops at the
variable. With `>` it keeps the values of the header only if both visit nothing: if the first value is the same double as
that number and not below it, and name and numbers can be written. With `>=` the equals sign is left in the range, and
the lines are no loop at all. -/
theorem counting_down_keeps_values_iff (hw : Indent w) (v : Identifier) (a b : Int) :
    (convertForLoops (countingHeader w v.text a .gt b .down) = .ok ((countingDown v.declared v a b).written w) ∧
      (declarable v.text = false → (countingDown v.declared v a b).values = none) ∧
      ((∀ c ∈ v.text, nameSet.has c) →
        ((countingDown v.declared v a b).Keeps ⟨a, .gt, b, .down⟩ ↔
          Usable v.text ∧ Writable a ∧ Writable b ∧ b ≤ a ∧ nearest a = nearest b))) ∧
    (convertForLoops (countingHeader w v.text a .ge b .down) =
        .ok (w ++ rangeLines w (declaredAs v.text) v.text a ('=' :: decimal b) v.text (-1)) ∧
      ∀ r : RangeLoop, convertForLoops (countingHeader w v.text a .ge b .down) ≠ .ok (r.written w)) := by
  have htext : convertForLoops (countingHeader w v.text a .ge b .down) =
      .ok (w ++ rangeLines w (declaredAs v.text) v.text a ('=' :: decimal b) v.text (-1)) :=
    convertForLoops_countingHeader hw v.isVariable
  refine ⟨⟨convertForLoops_countingHeader hw v.isVariable, fun hnot => ?_, countingDown_keeps_iff⟩, htext, fun r hr => ?_⟩
  · have hother := text_ne_declared hnot
    by_cases hb : Writable b <;>
      simp [RangeLoop.values, RangeLoop.range?, countingDown, Bound.value, hother, hb]
  · -- The lines have two equals signs, which a loop does not.
    rw [htext] at hr
    have hcount := congrArg (count '=') (Except.ok.inj hr)
    rw [count_equals_written hw, rangeLines] at hcount
    simp only [count_append, count_cons_self] at hcount
    omega

/-- Three values are visited, and the range has none; the loop that ends with the number is not one. -/
theorem three_to_one_lost : Indent [] ∧
    convertForLoops "for (var i = 3; i > 0; i--) \x7b" = .ok "i=3\nfor i in range(0, i, -1):\n" ∧
    Header.Visits ⟨3, .gt, 0, .down⟩ [3, 2, 1] ∧
    ¬(countingDown counterI.declared counterI 3 0).Keeps ⟨3, .gt, 0, .down⟩ ∧
    convertForLoops "for (var i = 3; i >= 0; i--) \x7b" = .ok "i=3\nfor i in range(=0, i, -1):\n" ∧
    ∀ r : RangeLoop, r.written [] ≠ "i=3\nfor i in range(=0, i, -1):\n" := by
  obtain ⟨⟨htext, -, hiff⟩, htext', hnone⟩ := counting_down_keeps_values_iff .nil counterI 3 0
  have hvisits : Header.Visits ⟨3, .gt, 0, .down⟩ [3, 2, 1] := by
    have hnext (x y : Int) (h : nearest (x + -1) = y) : nearest (x + Stride.down.amount) = y := h
    simp only [Header.Visits, visits_cons_iff, visits_nil_iff, hnext 3 2 (by decide +kernel),
      hnext 2 1 (by decide +kernel), hnext 1 0 (by decide +kernel), Comparison.Holds]
    decide +kernel
  refine ⟨.nil, htext, hvisits, fun h => ?_, htext', fun r hr => hnone r (hr ▸ htext')⟩
  exact absurd ((hiff (all_eq_true.mp rfl)).mp h).2.2.2.2 (by decide +kernel)

end Geoscript.Script
