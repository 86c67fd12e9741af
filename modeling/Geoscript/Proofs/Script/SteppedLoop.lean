import Geoscript.Proofs.Script.LoopDefinitions

/-! Loops with a compound step. Such a step is taken for one more definition: it becomes a line before the loop, and
the loop leaves its variable alone (`MovedLoop`). So the values are those of the header only if there are none. -/

namespace Geoscript.Script
open List Text Pattern
variable {w v : Text} {a b x : Int} {k : Nat} {l : List Int} {stride : Stride}

/-! ### The values of a header -/

theorem Visits.eq_nil {goes : Int → Prop} (h : Visits goes id x l) : ¬goes x ∧ l = [] := by
  have hnot : ¬goes x := by
    generalize hafter : (id : Int → Int) = after at h
    induction h with
    | done hnot => exact hnot
    | next hholds _ ih =>
      subst hafter
      exact absurd hholds ih
  cases h with
  | done _ => exact ⟨hnot, rfl⟩
  | next hholds _ => exact absurd hholds hnot

namespace Stride

/-- The condition of a header that counts up or down. -/
def comparison : Stride → Comparison
  | up => .lt
  | down => .gt

theorem holds_iff : stride.comparison.Holds x b ↔ 0 < stride.amount * (b - x) := by
  cases stride <;> simp only [comparison, Comparison.Holds, amount] <;> omega

instance (stride : Stride) (x b : Int) : Decidable (stride.comparison.Holds x b) :=
  decidable_of_iff _ holds_iff.symm

end Stride

/-- The first values of a sequence with a step of `k`, up or down, that have not passed the bound. -/
def steppedPrefix (stride : Stride) (k : Nat) (b x : Int) (n : Nat) : List Int :=
  ((range n).map fun (i : Nat) => x + stride.amount * (k * i)).takeWhile fun y => stride.comparison.Holds y b

/-- Every `k`-th value from `a` on, up or down, that has not passed the bound `b`. -/
def steppedValues (stride : Stride) (k : Nat) (a b : Int) : List Int :=
  steppedPrefix stride k b a (stride.amount * (b - a)).toNat

theorem steppedPrefix_succ (n : Nat) : steppedPrefix stride k b x (n + 1) =
    if stride.comparison.Holds x b then x :: steppedPrefix stride k b (x + stride.amount * k) n else [] := by
  have hrest : (fun i : Nat => x + stride.amount * (k * i)) ∘ Nat.succ =
      fun i : Nat => x + stride.amount * k + stride.amount * (k * i) := by
    funext i
    simp only [Function.comp_apply, Int.natCast_succ, Int.mul_add, Int.mul_one]
    omega
  rw [steppedPrefix, range_succ_eq_map, map_cons, map_map, hrest, takeWhile_cons]
  simp [steppedPrefix]

theorem visits_steppedPrefix (hk : 0 < k) {n : Nat} (hn : (stride.amount * (b - x)).toNat ≤ n) :
    Visits (stride.comparison.Holds · b) (fun y => y + stride.amount * k) x (steppedPrefix stride k b x n) := by
  induction n generalizing x with
  | zero =>
    refine .done fun hholds => ?_
    rw [Stride.holds_iff] at hholds
    omega
  | succ n ih =>
    rw [steppedPrefix_succ]
    split
    · next hholds =>
      refine .next hholds (ih ?_)
      rw [Stride.holds_iff] at hholds
      cases stride <;> simp only [Stride.amount] at hn hholds ⊢ <;> omega
    · next hnot => exact .done hnot

theorem visits_iff (hk : 0 < k) :
    Visits (stride.comparison.Holds · b) (fun y => y + stride.amount * k) a l ↔ l = steppedValues stride k a b := by
  have hvisits := @visits_steppedPrefix b a k stride hk _ (Nat.le_refl _)
  exact ⟨fun h => hvisits.unique h, fun h => h ▸ hvisits⟩

/-! ### The step -/

def compoundPart (v : Text) (stride : Stride) (k : Nat) : Text :=
  ' ' :: v ++ [' ', stride.sign, '=', ' '] ++ decimal k

theorem minus_not_mem_decimal (k : Nat) : '-' ∉ decimal k := fun h => by
  have hdigits : decimal k = Nat.toDigits 10 k := Nat.toList_repr
  rw [hdigits] at h
  exact absurd (Nat.isDigit_of_mem_toDigits (by decide) (by decide) h) (by decide)

theorem madeOf_compoundPart (hv : IsVariable v) : MadeOf " =-+" (compoundPart v stride k) := by
  have hsigns : MadeOf " =-+" [' ', stride.sign, '=', ' '] := by cases stride <;> decide
  exact (((hv.madeOf _).cons (by decide)).append hsigns).append (madeOf_decimal (by decide))

theorem isStep_compoundPart (hv : IsVariable v) : isStep (compoundPart v stride k) = false := by
  have hname : List.count '+' v = 0 ∧ List.count '-' v = 0 :=
    ⟨hv.count_eq_zero '+' rfl, hv.count_eq_zero '-' rfl⟩
  have hnumber : List.count '+' (decimal k) = 0 ∧ List.count '-' (decimal k) = 0 :=
    ⟨count_decimal '+' rfl (by decide), count_eq_zero.mpr (minus_not_mem_decimal k)⟩
  have hup : has "++" (compoundPart v stride k) = false := by
    refine has_false_of_count '+' ?_
    cases stride <;> simp [compoundPart, Stride.sign, hname, hnumber]
  have hdown : has "--" (compoundPart v stride k) = false := by
    refine has_false_of_count '-' ?_
    cases stride <;> simp [compoundPart, Stride.sign, hname, hnumber]
  rw [isStep, hup, hdown]
  rfl

theorem isCondition_compoundPart (hv : IsVariable v) : isCondition (compoundPart v stride k) = false := by
  have hmade := @madeOf_compoundPart v k stride hv
  have hname := hv.count_eq_zero '=' rfl
  have hnumber := @count_decimal k '=' rfl (by decide)
  refine not_isCondition (hmade.not_mem '<' rfl) (hmade.not_mem '>' rfl)
    (hmade.not_mem '!' rfl) ?_
  cases stride <;> simp [compoundPart, Stride.sign, hname, hnumber]

theorem bareDefinition_compoundPart (hv : IsVariable v) :
    bareDefinition (compoundPart v stride k) = v ++ [stride.sign, '='] ++ decimal k := by
  have hcut : compoundPart v stride k = ' ' :: (v ++ [' ']) ++ stride.sign :: ('=' :: ' ' :: decimal k) := by
    simp [compoundPart]
  have hdropped : dropNames ((declaration.occurrences (compoundPart v stride k)).map (·.group 1))
      (compoundPart v stride k) = compoundPart v stride k := by
    refine foldl_eq_self fun name hname => ?_
    have hdeclared := isDeclared_of_mem hname
    have hsign : stride.sign ∉ "var".toList ++ name := by
      have hother := hdeclared.not_mem stride.sign (by cases stride <;> decide) (by cases stride <;> decide)
      rw [mem_append, not_or]
      exact ⟨by cases stride <;> decide, hother⟩
    have hnot : ¬"var".toList ++ name <:+: compoundPart v stride k := by
      rw [hcut, infix_append_cons_iff hsign]
      rintro (hleft | hright)
      · exact hdeclared.not_before_equals hv hleft
      · have hmem : 'v' ∈ '=' :: ' ' :: decimal k := hright.subset (by simp)
        simp [not_mem_decimal] at hmem
    rw [dropName, replace_of_not_occurs (by simp) hnot, ite_self]
  have hblank (t : Text) : without isSpace (' ' :: t) = without isSpace t := rfl
  have hsigns : without isSpace [' ', stride.sign, '=', ' '] = [stride.sign, '='] := by cases stride <;> decide
  rw [bareDefinition, hdropped, compoundPart, without_append, without_append, hblank, hsigns,
    without_isSpace hv.not_isSpace, without_isSpace not_isSpace_decimal]

/-! ### The loop -/

/-- A variable that is defined as a number, and one that is moved once and then compared before every round. -/
structure MovedLoop where
  defined : Identifier
  counter : Identifier
  first : Int
  size : Nat
  bound : Int
  stride : Stride

namespace MovedLoop

def definitions (r : MovedLoop) : Text :=
  r.defined.text ++ '=' :: decimal r.first ++ "\n" ++ (r.counter.text ++ [r.stride.sign, '='] ++ decimal r.size)

def written (r : MovedLoop) : Text :=
  r.definitions ++ "\nwhile " ++ condition r.counter.text r.stride.comparison r.bound ++ " :\n"

/-- The lines can be run: the variable is the one that is defined, and all can be written. -/
def Runs (r : MovedLoop) : Prop :=
  r.defined.text = r.counter.text ∧ assignable r.counter.text ∧ Writable r.first ∧ Writable r.size ∧
    Writable r.bound

/-- The values that the variable has in the rounds of the loop, if it can be run and ends. -/
def Visits (r : MovedLoop) (l : List Int) : Prop :=
  r.Runs ∧ Script.Visits (r.stride.comparison.Holds · r.bound) id (r.first + r.stride.amount * r.size) l

end MovedLoop

def steppedInside (v : Text) (a : Int) (stride : Stride) (b : Int) (k : Nat) : Text :=
  definitionPart v a ++ ';' :: (conditionPart v stride.comparison b ++ ';' :: compoundPart v stride k)

theorem fields_steppedInside (hv : IsVariable v) : fields ';' (steppedInside v a stride b k) =
    [definitionPart v a, conditionPart v stride.comparison b, compoundPart v stride k] := by
  rw [steppedInside, fields_append_cons ((madeOf_definitionPart hv).not_mem ';' rfl),
    fields_append_cons ((madeOf_conditionPart hv).not_mem ';' (by cases stride <;> decide)),
    fields_of_not_mem ((madeOf_compoundPart hv).not_mem ';' rfl)]

theorem readable_steppedInside (hv : IsVariable v) : Readable (steppedInside v a stride b k) := by
  have hmade : MadeOf "; =-+<>" (steppedInside v a stride b k) := by
    refine ((madeOf_definitionPart hv).mono rfl).append (.cons (by decide) ?_)
    refine ((madeOf_conditionPart hv).mono (by cases stride <;> decide)).append (.cons (by decide) ?_)
    exact (madeOf_compoundPart hv).mono rfl
  exact ⟨by simp [steppedInside], .of_not_mem (hmade.not_mem '(' rfl) (hmade.not_mem ')' rfl), hmade.not_mem '\n' rfl⟩

theorem MovedLoop.madeOf_written (r : MovedLoop) : MadeOf "=-+<>: \n" r.written := by
  have hname : MadeOf "=-+<>: \n" r.counter.text := r.counter.isVariable.madeOf _
  have hdefined : MadeOf "=-+<>: \n" r.defined.text := r.defined.isVariable.madeOf _
  have hnumber {i : Int} : MadeOf "=-+<>: \n" (decimal i) := madeOf_decimal (by decide)
  have hstep : MadeOf "=-+<>: \n" [r.stride.sign, '='] := by cases r.stride <;> decide
  have hsymbol : MadeOf "=-+<>: \n" r.stride.comparison.symbol := by cases r.stride <;> decide
  have hbreak : MadeOf "=-+<>: \n" "\n" := by decide
  have hwhile : MadeOf "=-+<>: \n" "\nwhile " := by decide
  have hend : MadeOf "=-+<>: \n" " :\n" := by decide
  exact (((((hdefined.append (hnumber.cons (by decide))).append hbreak).append ((hname.append hstep).append
    hnumber)).append hwhile).append ((hname.append hsymbol).append hnumber)).append hend

theorem definitionLines_stepped (v : Identifier) (b : Int) :
    definitionLines [definitionPart v.text a, compoundPart v.text stride k] =
      .ok (MovedLoop.definitions ⟨v.declared, v, a, k, b, stride⟩) := by
  have hv := v.isVariable
  have hlines : unlines ([definitionPart v.text a, compoundPart v.text stride k].map bareDefinition) =
      MovedLoop.definitions ⟨v.declared, v, a, k, b, stride⟩ := by
    rw [map_cons, map_singleton, bareDefinition_definitionPart hv, bareDefinition_compoundPart hv]
    rfl
  have hcomma : ¬[','] <:+: MovedLoop.definitions ⟨v.declared, v, a, k, b, stride⟩ := fun h => by
    have hmem : ',' ∈ MovedLoop.written ⟨v.declared, v, a, k, b, stride⟩ := by
      simp [MovedLoop.written, h.subset (mem_singleton_self ',')]
    exact (MovedLoop.madeOf_written _).not_mem ',' rfl hmem
  rw [definitionLines_eq, hlines, replace_of_not_occurs (by decide) hcomma]

theorem forLoop_steppedInside (v : Identifier) : forLoop w (steppedInside v.text a stride b k) =
    .ok (MovedLoop.written ⟨v.declared, v, a, k, b, stride⟩) := by
  have hv := v.isVariable
  have hmade := MovedLoop.madeOf_written ⟨v.declared, v, a, k, b, stride⟩
  have hcompared := @without_conditionPart v.text b stride.comparison hv
  have hreading : stride.comparison.reading b = (stride.comparison, decimal b) := by cases stride <;> rfl
  have hop := @find?_condition v.text b stride.comparison hv
  have hsides := @splitOn_condition v.text b stride.comparison hv
  rw [hreading, ← hcompared] at hop hsides
  rw [forLoop_of_parts (fields_steppedInside hv) ⟨isStep_definitionPart hv, isCondition_definitionPart hv⟩
    ⟨isStep_conditionPart hv, isCondition_conditionPart⟩ ⟨isStep_compoundPart hv, isCondition_compoundPart hv⟩
    hop hsides (definitionLines_stepped v b), hcompared]
  exact congrArg Except.ok (dropUnmatched_of_not_mem (hmade.not_mem '{' rfl) (hmade.not_mem '}' rfl))

/-- The line with the header of a loop that steps by a number. -/
def steppedHeader (w v : Text) (a : Int) (stride : Stride) (b : Int) (k : Nat) : Text :=
  w ++ "for (var " ++ v ++ " = " ++ decimal a ++ "; " ++ v ++ " " ++
    stride.comparison.symbol ++ " " ++ decimal b ++ "; " ++ v ++ " " ++ [stride.sign, '='] ++
    " " ++ decimal k ++ ") \x7b"

theorem steppedHeader_eq : steppedHeader w v a stride b k = headerLine w (steppedInside v a stride b k) := by
  unfold steppedHeader
  rw [headerLine, steppedInside, definitionPart, conditionPart, compoundPart]
  simp only [append_assoc, cons_append, nil_append]
  rfl

theorem convertForLoops_steppedHeader (hw : Indent w) (v : Identifier) :
    convertForLoops (steppedHeader w v.text a stride b k) = .ok (w ++ MovedLoop.written ⟨v.declared, v, a, k, b, stride⟩) := by
  rw [steppedHeader_eq, convertForLoops_headerLine hw (readable_steppedInside v.isVariable), forLoop_steppedInside]
  rfl

theorem MovedLoop.visits_iff_not_holds (r : MovedLoop) (hsize : 0 < r.size) :
    (∀ l, r.Visits l ↔ l = steppedValues r.stride r.size r.first r.bound) ↔
      r.Runs ∧ ¬r.stride.comparison.Holds r.first r.bound := by
  have hheader (l : List Int) := @visits_iff r.first r.bound r.size l r.stride hsize
  constructor
  · intro h
    obtain ⟨hruns, hvisits⟩ := (h _).mpr rfl
    refine ⟨hruns, fun hholds => ?_⟩
    -- The loop ends without a round, so the header has none either.
    have hnone := (hheader _).mpr rfl
    rw [hvisits.eq_nil.2] at hnone
    cases hnone with
    | done hnot => exact hnot hholds
  · rintro ⟨hruns, hnot⟩ l
    have hmoved : ¬r.stride.comparison.Holds (r.first + r.stride.amount * r.size) r.bound := by
      rw [Stride.holds_iff] at hnot ⊢
      cases hstride : r.stride <;> simp only [hstride, Stride.amount] at hnot ⊢ <;> omega
    rw [← hheader]
    constructor
    · intro h
      rw [h.2.eq_nil.2]
      exact .done hnot
    · intro h
      obtain rfl := h.unique (.done hnot)
      exact ⟨hruns, .done hmoved⟩

/-- A header with a compound step visits every `k`-th value before its bound. It becomes a loop that steps once before
its first round and not again. If the name is not declared as such, the loop cannot be run. For a name of known
characters the values are the same if and only if the loop can be run and there are none. The loop does not end if the
second value of the header satisfies its condition. -/
theorem compound_step_kept_iff (v : Identifier) (stride : Stride) (a b : Int) (hk : 0 < k) :
    convertForLoops (steppedHeader [] v.text a stride b k) = .ok (MovedLoop.written ⟨v.declared, v, a, k, b, stride⟩) ∧
    (∀ l, Visits (stride.comparison.Holds · b) (fun x => x + stride.amount * k) a l ↔ l = steppedValues stride k a b) ∧
    (declarable v.text = false → ∀ l, ¬MovedLoop.Visits ⟨v.declared, v, a, k, b, stride⟩ l) ∧
    ((∀ c ∈ v.text, nameSet.has c) →
      ((∀ l, MovedLoop.Visits ⟨v.declared, v, a, k, b, stride⟩ l ↔ l = steppedValues stride k a b) ↔
        (assignable v.text ∧ Writable a ∧ Writable k ∧ Writable b) ∧ ¬stride.comparison.Holds a b)) ∧
    (stride.comparison.Holds (a + stride.amount * k) b →
      ∀ l, ¬MovedLoop.Visits ⟨v.declared, v, a, k, b, stride⟩ l) := by
  refine ⟨convertForLoops_steppedHeader .nil v, fun _ => visits_iff hk,
    fun hnot l h => text_ne_declared hnot h.1.1.symm, fun hknown => ?_, fun hholds _ h => h.2.eq_nil.1 hholds⟩
  refine (MovedLoop.visits_iff_not_holds ⟨v.declared, v, a, k, b, stride⟩ hk).trans (and_congr_left' ?_)
  exact and_iff_right ((declared_text_eq_iff v).mpr (declarable_of_known hknown))

theorem every_second_kept_only_if_none : 0 < 2 ∧ 0 < 3 ∧
    convertForLoops "for (var i = 0; i < 10; i += 2) \x7b" = .ok "i=0\ni+=2\nwhile i<10 :\n" ∧
    Visits (Comparison.lt.Holds · 10) (fun x => x + 1 * 2) 0 [0, 2, 4, 6, 8] ∧
    (∀ l, ¬MovedLoop.Visits ⟨counterI.declared, counterI, 0, 2, 10, .up⟩ l) ∧
    convertForLoops "for (var i = -1; i > -3; i -= 3) \x7b" = .ok "i=-1\ni-=3\nwhile i>-3 :\n" ∧
    Visits (Comparison.gt.Holds · (-3)) (fun x => x + -1 * 3) (-1) [-1] ∧
    (∀ l, MovedLoop.Visits ⟨counterI.declared, counterI, 5, 2, 5, .up⟩ l ↔ l = []) ∧
    ∀ l, ¬MovedLoop.Visits ⟨counterE.declared, counterE, 5, 2, 5, .up⟩ l := by
  obtain ⟨htext, hvisits, -, -, hendless⟩ := compound_step_kept_iff counterI .up 0 10 (by decide : 0 < 2)
  obtain ⟨htext', hvisits', -⟩ := compound_step_kept_iff counterI .down (-1) (-3) (by decide : 0 < 3)
  obtain ⟨-, -, -, hkept, -⟩ := compound_step_kept_iff counterI .up 5 5 (by decide : 0 < 2)
  obtain ⟨-, -, hundefined, -⟩ := compound_step_kept_iff counterE .up 5 5 (by decide : 0 < 2)
  have hsmall (i : Int) (h : i.natAbs ≤ 10) : Writable i := writable_of_le (Nat.le_trans h (by decide))
  refine ⟨by decide, by decide, htext, (hvisits _).mpr rfl, hendless (by decide), htext', (hvisits' _).mpr rfl,
    (hkept (all_eq_true.mp rfl)).mpr ⟨⟨by decide, ?_⟩, by decide⟩, hundefined (by decide)⟩
  exact ⟨hsmall 5 (by decide), hsmall 2 (by decide), hsmall 5 (by decide)⟩

end Geoscript.Script
