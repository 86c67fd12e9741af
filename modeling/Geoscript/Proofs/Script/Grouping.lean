import Mathlib.Algebra.Ring.Int.Defs
import Mathlib.Data.List.Forall2
import Geoscript.Proofs.Result
import Geoscript.Script.Function.Definition

/-! Groups of lines. The flags are cut into runs, `Grouped` says what the runs make of the lines, and no line is lost.
What is found between the first and the last line of a group is a group inside it (`regroupUpTo_deep`), converted
before the outer one. -/

namespace Geoscript
open List

theorem mapM_eq_ok {α β : Type} {f : α → Except Fault β} {as : List α} {bs : List β}
    (h : Forall₂ (fun a b => f a = .ok b) as bs) : as.mapM f = .ok bs := by
  induction h with
  | nil => rfl
  | cons ha _ ih =>
    rw [mapM_cons, ha, ih]
    rfl

theorem forall₂_of_mapM_ok {α β : Type} {f : α → Except Fault β} {as : List α} {bs : List β} (h : as.mapM f = .ok bs) :
    Forall₂ (fun a b => f a = .ok b) as bs := by
  induction as generalizing bs with
  | nil =>
    obtain rfl := Except.ok.inj h
    exact .nil
  | cons a as ih =>
    rw [mapM_cons] at h
    obtain ⟨b, ha, h⟩ := ok_of_bind h
    obtain ⟨others, has, h⟩ := ok_of_bind h
    obtain rfl := Except.ok.inj h
    exact .cons ha (ih has)

theorem forall₂_elementAt {α : Type} (front mid back : List α) :
    Forall₂ (fun i x => elementAt (front ++ (mid ++ back)) i = .ok x)
      ((range mid.length).map fun k => ((front.length + k : Nat) : Int)) mid := by
  refine forall₂_iff_get.mpr ⟨by simp, fun i hi hi' => ?_⟩
  have hplace : (front ++ (mid ++ back))[front.length + i]? = some (mid.get ⟨i, hi'⟩) := by
    rw [getElem?_append_right (Nat.le_add_right _ _), Nat.add_sub_cancel_left, getElem?_append_left hi']
    exact getElem?_eq_getElem hi'
  have hnonneg : ¬((front.length + i : Nat) : Int) < 0 := by omega
  simp only [get_eq_getElem, getElem_map, getElem_range, elementAt, if_neg hnonneg, Int.toNat_natCast, hplace]

namespace Slot

/-! ### Runs of flags -/

theorem joins_zero_iff {c : Char} {next : Option Char} :
    joins '0' c next ↔ c = '0' ∧ next.all (fun n => n == '0' || n == '1') := by
  unfold joins
  split <;> simp_all

theorem runs_cons (c : Char) (rest : Text) : ∃ g gs, runs (c :: rest) = (c :: g) :: gs ∧
    (c = '0' → (∀ d ∈ g, d = '0') ∧ (rest.head?.all (fun n => n == '0' || n == '1') = false → g = [])) := by
  induction rest generalizing c with
  | nil => exact ⟨[], [], rfl, fun _ => ⟨by simp, fun _ => rfl⟩⟩
  | cons d rest ih =>
    obtain ⟨g, gs, hruns, hzeros⟩ := ih d
    rw [runs, hruns]
    cases hjoins : joins c d rest.head? with
    | false => exact ⟨[], (d :: g) :: gs, rfl, fun _ => ⟨by simp, fun _ => rfl⟩⟩
    | true =>
      refine ⟨d :: g, gs, rfl, ?_⟩
      rintro rfl
      obtain ⟨rfl, -⟩ := joins_zero_iff.mp hjoins
      exact ⟨forall_mem_cons.mpr ⟨rfl, (hzeros rfl).1⟩, fun h => by simp at h⟩

/-- Ones join the run behind them, if it does not start with a zero. -/
theorem runs_lead (n : Nat) {c : Char} {t g : Text} {gs : List Text} (hc : c ≠ '0') (h : runs (c :: t) = g :: gs) :
    runs (replicate n '1' ++ c :: t) = (replicate n '1' ++ g) :: gs := by
  induction n generalizing c t g with
  | zero => exact h
  | succ n ih =>
    rw [replicate_succ', append_assoc, append_assoc]
    exact ih (by decide) (by simp [runs, h, joins, hc])

theorem runs_ones (n : Nat) {t : Text} (ht : ∀ c ∈ t, c = '0' ∨ c = '1') (hend : t.head? ≠ some '1') :
    runs (replicate (n + 1) '1' ++ t) = replicate (n + 1) '1' :: runs t := by
  have hone : runs ('1' :: t) = ['1'] :: runs t := by
    cases t with
    | nil => rfl
    | cons c t =>
      rw [forall_mem_cons] at ht
      obtain rfl : c = '0' := ht.1.resolve_right fun h => hend (h ▸ rfl)
      obtain ⟨g, gs, hruns, -⟩ := runs_cons '0' t
      have hjoins : joins '1' '0' t.head? = false := by
        cases t with
        | nil => rfl
        | cons d t => rcases ht.2 d mem_cons_self with rfl | rfl <;> rfl
      simp [runs, hruns, hjoins]
  rw [replicate_succ', append_assoc]
  exact runs_lead n (by decide) hone

def numbers (start n : Nat) : List Int :=
  (range n).map fun k => ((start + k : Nat) : Int)

theorem numbers_succ (start n : Nat) : numbers start (n + 1) = (start : Int) :: numbers (start + 1) n := by
  simp [numbers, range_succ_eq_map, Function.comp_def, Int.add_assoc, Int.add_comm 1]

theorem mapM_flagValue {c : Char} {d : Nat} (h : flagValue c = .ok d) (n : Nat) :
    (replicate n c).mapM flagValue = .ok (replicate n d) := by
  refine mapM_eq_ok ?_
  induction n with
  | zero => exact Forall₂.nil
  | succ n ih => exact Forall₂.cons h ih

theorem ofRuns_zeros (start n : Nat) (rs : List Text) : ofRuns start (replicate n '0' :: rs) =
    (ofRuns (start + n) rs).map ((numbers start n).map Slot.line ++ ·) := by
  have hzero : (replicate n 0).all (· == 0) := by
    rw [all_replicate]
    split <;> rfl
  simp only [ofRuns, ofRun, mapM_flagValue (show flagValue '0' = .ok 0 from rfl), length_replicate, bind,
    Except.bind, hzero, if_true]
  cases ofRuns (start + n) rs <;> rfl

theorem ofRuns_block {run : Text} {values : List Nat} (h : run.mapM flagValue = .ok values)
    (hset : values.all (· == 0) = false) (start : Nat) (rs : List Text) : ofRuns start (run :: rs) =
      (ofRuns (start + run.length) rs).map (Slot.block (numbers start run.length) :: ·) := by
  simp only [ofRuns, ofRun, h, bind, Except.bind, hset]
  cases ofRuns (start + run.length) rs <;> rfl

theorem ofRuns_ones (start n : Nat) (rs : List Text) : ofRuns start (replicate (n + 1) '1' :: rs) =
    (ofRuns (start + (n + 1)) rs).map (Slot.block (numbers start (n + 1)) :: ·) := by
  rw [ofRuns_block (mapM_flagValue rfl (n + 1)) rfl, length_replicate]

theorem ofRuns_runs_zero (start : Nat) (t : Text) :
    ofRuns start (runs ('0' :: t)) = (ofRuns (start + 1) (runs t)).map (Slot.line start :: ·) := by
  cases t with
  | nil => rfl
  | cons c t =>
    obtain ⟨g, gs, hruns, hzeros⟩ := runs_cons c t
    rw [runs, hruns]
    cases hjoins : joins '0' c t.head? with
    | false => exact ofRuns_zeros start 1 ((c :: g) :: gs)
    | true =>
      obtain ⟨rfl, -⟩ := joins_zero_iff.mp hjoins
      obtain ⟨n, rfl⟩ : ∃ n, g = replicate n '0' := ⟨g.length, eq_replicate_of_mem (hzeros rfl).1⟩
      simp only [if_true, ← replicate_succ]
      rw [ofRuns_zeros, ofRuns_zeros, numbers_succ, show start + 1 + (n + 1) = start + (n + 1 + 1) by omega]
      cases ofRuns (start + (n + 1 + 1)) gs <;> rfl

end Slot

namespace Script
open Text Slot
variable {header : Pattern} {front back ls : List Text} {flags : Text} {items : List Nested}

/-! ### Finding groups -/

theorem nestedOfSlot_line (front back : List Text) (l : Text) :
    nestedOfSlot (front ++ l :: back) (.line front.length) = .ok (.line l) := by
  have hl : elementAt (front ++ l :: back) front.length = .ok l := by
    simpa using (forall₂_cons.mp (forall₂_elementAt front [l] back)).1
  rw [nestedOfSlot, hl]
  rfl

theorem nestedOfSlot_block (front mid back : List Text) :
    nestedOfSlot (front ++ (mid ++ back)) (.block (numbers front.length mid.length)) = .ok (.group (mid.map .line)) := by
  rw [nestedOfSlot, numbers, mapM_eq_ok (forall₂_elementAt front mid back)]
  rfl

theorem flattenList_lines (ts : List Text) : Nested.flattenList (ts.map .line) = ts := by
  induction ts with
  | nil => rfl
  | cons t ts ih => rw [map_cons, Nested.flattenList, ih]; rfl

/-- Lines with their flags, and the items they become: a run of ones becomes a group. -/
inductive Grouped : Text → List Text → List Nested → Prop where
  | nil : Grouped [] [] []
  | line {flags : Text} {ls : List Text} {items : List Nested} (l : Text) (h : Grouped flags ls items) :
    Grouped ('0' :: flags) (l :: ls) (.line l :: items)
  | group {flags : Text} {ls block : List Text} {items : List Nested} (hblock : block ≠ [])
      (hend : flags.head? ≠ some '1') (h : Grouped flags ls items) :
    Grouped (replicate block.length '1' ++ flags) (block ++ ls) (.group (block.map .line) :: items)

namespace Grouped

theorem flag_eq (h : Grouped flags ls items) : ∀ c ∈ flags, c = '0' ∨ c = '1' := by
  induction h with
  | nil => simp
  | line l _ ih => simpa using ih
  | group _ _ _ ih =>
    intro c hc
    rcases mem_append.mp hc with hc | hc
    · exact .inr (eq_of_mem_replicate hc)
    · exact ih c hc

theorem slots (h : Grouped flags ls items) (front : List Text) : ∃ slots,
    ofRuns front.length (runs flags) = .ok slots ∧ slots.mapM (nestedOfSlot (front ++ ls)) = .ok items := by
  induction h generalizing front with
  | nil => exact ⟨[], rfl, rfl⟩
  | @line flags ls items l h ih =>
    obtain ⟨slots, hslots, hitems⟩ := ih (front ++ [l])
    rw [length_append, length_singleton] at hslots
    rw [append_assoc, singleton_append] at hitems
    refine ⟨.line front.length :: slots, by rw [ofRuns_runs_zero, hslots]; rfl, ?_⟩
    rw [mapM_cons, nestedOfSlot_line, hitems]
    rfl
  | @group flags ls block items hblock hend h ih =>
    obtain ⟨b, bs, rfl⟩ := exists_cons_of_ne_nil hblock
    obtain ⟨slots, hslots, hitems⟩ := ih (front ++ b :: bs)
    rw [length_append, length_cons] at hslots
    rw [append_assoc] at hitems
    refine ⟨.block (numbers front.length (b :: bs).length) :: slots, ?_, ?_⟩
    · rw [length_cons, runs_ones _ h.flag_eq hend, ofRuns_ones, hslots]
      rfl
    · rw [mapM_cons, nestedOfSlot_block, hitems]
      rfl

theorem flattenList_eq (h : Grouped flags ls items) : Nested.flattenList items = ls := by
  induction h with
  | nil => rfl
  | line l _ ih => rw [Nested.flattenList, ih]; rfl
  | group _ _ _ ih => rw [Nested.flattenList, ih, Nested.flatten, flattenList_lines]

theorem exists_cons_one (h : Grouped flags ls items) (l : Text) :
    ∃ items', Grouped ('1' :: flags) (l :: ls) items' := by
  have hsingle (hend : flags.head? ≠ some '1') : ∃ items', Grouped ('1' :: flags) (l :: ls) items' :=
    ⟨_, .group (cons_ne_nil l []) hend h⟩
  cases h with
  | nil => exact hsingle (by simp)
  | line => exact hsingle (by simp)
  | @group flags ls block items hblock hend h => exact ⟨_, .group (cons_ne_nil l block) hend h⟩

end Grouped

theorem groupFunctions_of_grouped (h : Grouped (functionFlags header 0 ls) ls items) :
    groupFunctions header ls = .ok items := by
  obtain ⟨slots, hslots, hitems⟩ := h.slots []
  have hflags : ofFlags (functionFlags header 0 ls) = .ok slots := hslots
  rw [groupFunctions, hflags]
  exact hitems

theorem exists_grouped (header : Pattern) (depth : Int) (ls : List Text) :
    ∃ items, Grouped (functionFlags header depth ls) ls items := by
  induction ls generalizing depth with
  | nil => exact ⟨[], .nil⟩
  | cons l ls ih =>
    rw [functionFlags]
    split
    · obtain ⟨items, h⟩ := ih (depth + l.count '{' - l.count '}')
      exact h.exists_cons_one l
    · obtain ⟨items, h⟩ := ih depth
      exact ⟨.line l :: items, .line l h⟩

theorem Grouped.lines (h : Grouped flags ls items) (front : List Text) :
    Grouped (replicate front.length '0' ++ flags) (front ++ ls) (front.map .line ++ items) := by
  induction front with
  | nil => exact h
  | cons l front ih => exact .line l ih

theorem groupFunctions_of_flags (hback : back ≠ [])
    (h : functionFlags header 0 (front ++ back) = replicate front.length '0' ++ replicate back.length '1') :
    groupFunctions header (front ++ back) = .ok (front.map .line ++ [.group (back.map .line)]) := by
  have hgroup := (Grouped.group hback (by simp) .nil).lines front
  rw [append_nil, append_nil, ← h] at hgroup
  exact groupFunctions_of_grouped hgroup

theorem groupFunctions_of_unflagged (h : functionFlags header 0 front = replicate front.length '0') :
    groupFunctions header front = .ok (front.map .line) := by
  have hlines := Grouped.nil.lines front
  rw [append_nil, append_nil, append_nil, ← h] at hlines
  exact groupFunctions_of_grouped hlines

/-! ### Functions in lines -/

/-- How many more braces are opened than closed in lines. -/
def braceBalance (ls : List Text) : Int :=
  (ls.map fun l => (l.count '{' - l.count '}' : Int)).sum

theorem braceBalance_cons (l : Text) (ls : List Text) :
    braceBalance (l :: ls) = l.count '{' - l.count '}' + braceBalance ls := by
  simp [braceBalance]

/-- The lines of a function: the first has its header, and the last is the first one behind which no brace is open. -/
structure IsBlock (header : Pattern) (block : List Text) : Prop where
  headed : ∃ l ∈ block.head?, (header.matchStart? l).isSome
  unclosed : ∀ n < block.length, 0 < n → braceBalance (block.take n) ≠ 0
  closed : braceBalance block = 0

/-- Lines as a sequence of plain ones and of functions, no function directly behind another, with an item for each. -/
inductive Sequence (header : Pattern) : List Text → List Nested → Prop where
  | nil : Sequence header [] []
  | plain {l : Text} {ls : List Text} {items : List Nested} (hl : header.matchStart? l = none)
      (h : Sequence header ls items) : Sequence header (l :: ls) (.line l :: items)
  | block {block ls : List Text} {items : List Nested} (hblock : IsBlock header block)
      (hnext : ∀ x ∈ items.head?, x.isLine) (h : Sequence header ls items) :
    Sequence header (block ++ ls) (.group (block.map .line) :: items)

theorem functionFlags_closed {block : List Text} {depth : Int} (ls : List Text)
    (hopen : ∀ n < block.length, depth + braceBalance (block.take n) ≠ 0) (hclosed : depth + braceBalance block = 0) :
    functionFlags header depth (block ++ ls) = replicate block.length '1' ++ functionFlags header 0 ls := by
  induction block generalizing depth with
  | nil =>
    obtain rfl : depth = 0 := by simpa [braceBalance] using hclosed
    rfl
  | cons l block ih =>
    have hdepth : depth ≠ 0 := by simpa [braceBalance] using hopen 0 (by simp)
    have hflag : ((header.matchStart? l).isSome || depth != 0) := by simp [hdepth]
    rw [braceBalance_cons] at hclosed
    rw [cons_append, functionFlags, if_pos hflag, ih (fun n hn => ?_) (by omega)]
    · rfl
    · have := hopen (n + 1) (by simpa using hn)
      rw [take_succ_cons, braceBalance_cons] at this
      omega

theorem IsBlock.functionFlags_eq {block : List Text} (h : IsBlock header block) (ls : List Text) :
    functionFlags header 0 (block ++ ls) = replicate block.length '1' ++ functionFlags header 0 ls := by
  obtain ⟨l, hl, hheader⟩ := h.headed
  obtain ⟨block, rfl⟩ : ∃ rest, block = l :: rest := ⟨_, (cons_head?_tail hl).symm⟩
  have hflag : ((header.matchStart? l).isSome || (0 : Int) != 0) := by simp [hheader]
  have hclosed := h.closed
  rw [braceBalance_cons] at hclosed
  rw [cons_append, functionFlags, if_pos hflag, functionFlags_closed ls (fun n hn => ?_) (by omega)]
  · rfl
  · have := h.unclosed (n + 1) (by simpa using hn) (Nat.succ_pos n)
    rw [take_succ_cons, braceBalance_cons] at this
    omega

theorem Sequence.grouped (h : Sequence header ls items) : Grouped (functionFlags header 0 ls) ls items := by
  have hplain {l : Text} (ls : List Text) (hl : header.matchStart? l = none) :
      functionFlags header 0 (l :: ls) = '0' :: functionFlags header 0 ls := by
    simp [functionFlags, hl]
  induction h with
  | nil => exact .nil
  | plain hl _ ih => exact hplain _ hl ▸ .line _ ih
  | @block block ls items hblock hnext h ih =>
    have hne : block ≠ [] := by
      rintro rfl
      simpa using hblock.headed
    have hend : (functionFlags header 0 ls).head? ≠ some '1' := by
      cases h with
      | nil => simp [functionFlags]
      | plain hl => simp [hplain _ hl]
      | block => exact absurd (hnext _ rfl) (by simp [Nested.isLine])
    exact hblock.functionFlags_eq ls ▸ .group hne hend ih

/-- Every list of lines is cut into lines and groups without a change of the lines, and the groups of plain lines and
functions are the functions. -/
theorem groupFunctions_keeps_functions (header : Pattern) (ls : List Text) :
    ∃ items, groupFunctions header ls = .ok items ∧ Nested.flattenList items = ls ∧
      ∀ parts, Sequence header ls parts → items = parts := by
  obtain ⟨items, h⟩ := exists_grouped header 0 ls
  have hitems := groupFunctions_of_grouped h
  refine ⟨items, hitems, h.flattenList_eq, fun parts hparts => ?_⟩
  exact Except.ok.inj (hitems.symm.trans (groupFunctions_of_grouped hparts.grouped))

theorem groupFunctions_function_between : groupFunctions FunctionKind.standalone.header
        (["a = 1;", "function f(x) \x7b", "return x; \x7d", "b"].map String.toList) =
      .ok [.line "a = 1;", .group (["function f(x) \x7b", "return x; \x7d"].map (.line ·.toList)), .line "b"] := by
  obtain ⟨items, hitems, -, hparts⟩ := groupFunctions_keeps_functions FunctionKind.standalone.header
    (["a = 1;", "function f(x) \x7b", "return x; \x7d", "b"].map String.toList)
  have hblock : IsBlock FunctionKind.standalone.header
      (["function f(x) \x7b", "return x; \x7d"].map String.toList) :=
    ⟨⟨_, rfl, by cbv⟩, by decide, by decide⟩
  rw [hitems, hparts _ (.plain (by cbv) (.block hblock (by simp [Nested.isLine]) (.plain (by cbv) .nil)))]
  rfl

/-! ### Groups inside of groups -/

theorem regroupUpTo_lines (header : Pattern) (depth : Nat) (ts : List Text) :
    regroupUpTo header depth (ts.map .line) = .ok (ts.map .line) := by
  cases depth with
  | zero => rfl
  | succ depth =>
    refine mapM_eq_ok ?_
    rw [forall₂_map_left_iff, forall₂_map_right_iff]
    exact forall₂_same.mpr fun t _ => rfl

theorem regroupUpTo_append (header : Pattern) (depth : Nat) (xs ys : List Nested) :
    regroupUpTo header depth (xs ++ ys) =
      (do return (← regroupUpTo header depth xs) ++ (← regroupUpTo header depth ys)) := by
  cases depth with
  | zero => rfl
  | succ depth => rw [regroupUpTo, mapM_append]; rfl

theorem mapM_lineText (ts : List Text) : (ts.map Nested.line).mapM Nested.lineText = .ok ts := by
  refine mapM_eq_ok ?_
  rw [forall₂_map_left_iff]
  exact forall₂_same.mpr fun t _ => rfl

theorem regroupUpTo_group (header : Pattern) (depth : Nat) (first last : Text) (mid : List Text) :
    regroupUpTo header (depth + 1) [.group ((first :: (mid ++ [last])).map .line)] = (do
        let inner ← groupFunctions header mid
        return [.group (← regroupUpTo header depth (.line first :: inner ++ [.line last]))]) := by
  have hlast : ((mid ++ [last]).map Nested.line).getLast?.getD (.line first) = .line last := by
    rw [map_append, map_singleton, getLast?_concat]
    rfl
  have hmid : ((mid ++ [last]).map Nested.line).dropLast = mid.map .line := by
    rw [map_append, map_singleton, dropLast_concat]
  rw [regroupUpTo, mapM_cons, map_cons]
  simp only [hlast, hmid, mapM_lineText, bind, Except.bind]
  cases groupFunctions header mid with
  | error e => rfl
  | ok inner =>
    dsimp only
    cases regroupUpTo header depth (.line first :: inner ++ [.line last]) <;> rfl

theorem regroupUpTo_flat (depth : Nat) (first last : Text) {mid : List Text}
    (h : functionFlags header 0 mid = replicate mid.length '0') :
    regroupUpTo header (depth + 1) [.group ((first :: (mid ++ [last])).map .line)] =
      .ok [.group ((first :: (mid ++ [last])).map .line)] := by
  have hlines : Nested.line first :: mid.map Nested.line ++ [Nested.line last] =
      (first :: (mid ++ [last])).map Nested.line := by
    simp
  rw [regroupUpTo_group, groupFunctions_of_unflagged h]
  simp only [bind, Except.bind, hlines, regroupUpTo_lines]
  rfl

theorem regroupUpTo_single (header : Pattern) (depth : Nat) (t : Text) :
    regroupUpTo header (depth + 1) [.group [.line t]] = .ok [.group [.line t, .line t]] := by
  have hlines := regroupUpTo_lines header depth [t, t]
  rw [map_cons, map_singleton] at hlines
  have hnone : groupFunctions header [] = .ok [] := rfl
  rw [regroupUpTo, mapM_cons]
  simp only [dropLast_nil, getLast?_nil, Option.getD_none, mapM_nil, pure_bind, hnone]
  show (do return Nested.group (← regroupUpTo header depth [Nested.line t, Nested.line t])) >>= _ = _
  rw [hlines]
  rfl

/-- Lines that are flagged up to the last line but one become a group, which is searched in turn. -/
theorem regroupUpTo_deep {depth : Nat} (first last : Text) {g : Nested} (hback : back ≠ [])
    (h : functionFlags header 0 (front ++ back) = replicate front.length '0' ++ replicate back.length '1')
    (hinner : regroupUpTo header depth [.group (back.map .line)] = .ok [g]) :
    regroupUpTo header (depth + 1) [.group ((first :: (front ++ back ++ [last])).map .line)] =
      .ok [.group ((first :: front).map .line ++ [g, .line last])] := by
  have hlines := regroupUpTo_lines header depth
  have hsplit : Nested.line first :: (front.map Nested.line ++ [Nested.group (back.map .line)]) ++ [Nested.line last] =
      (first :: front).map Nested.line ++ ([Nested.group (back.map .line)] ++ [last].map Nested.line) := by
    simp
  rw [regroupUpTo_group, groupFunctions_of_flags hback h]
  simp only [bind, Except.bind, hsplit, regroupUpTo_append, hlines, hinner]
  rfl

/-! ### Converting groups -/

theorem naming_bind_ok {α β : Type} {x : Naming α} {f : α → Naming β} {s s' : NameSupply} {a : α}
    (h : x s = .ok (a, s')) : (x >>= f) s = f a s' := by
  show Except.bind (x s) _ = _
  rw [h]
  rfl

theorem naming_bind_error {α β : Type} {x : Naming α} {f : α → Naming β} {s : NameSupply} {e : Fault}
    (h : x s = .error e) : (x >>= f) s = .error e := by
  show Except.bind (x s) _ = _
  rw [h]
  rfl

namespace FunctionKind
variable {k : FunctionKind}

def convertItem (k : FunctionKind) (item : Nested) : Naming Text := do
  match ← k.convertInner item with
  | .inl t => pure t
  | .inr ls => k.convertLines ls

theorem convertItem_flat (k : FunctionKind) (ts : List Text) :
    k.convertItem (.group (ts.map .line)) = k.convertLines ts := by
  have hall : (ts.map Nested.line).all Nested.isLine := by
    rw [all_map, all_eq_true]
    exact fun t _ => rfl
  rw [convertItem, convertInner, if_pos hall, flattenList_lines]
  simp

theorem convertInners_append (k : FunctionKind) (front : List Text) (items : List Nested) :
    k.convertInners (front.map .line ++ items) = (do return front.map .inl ++ (← k.convertInners items)) := by
  induction front with
  | nil => simp
  | cons t front ih => simp [convertInners, convertInner, ih]

theorem convertItem_deep (k : FunctionKind) (front : List Text) {g : Nested} (last : Text) (hg : g.isLine = false) :
    k.convertItem (.group (front.map .line ++ [g, .line last])) =
      (do k.convertLines (front ++ [← k.convertItem g, last])) := by
  have hall : ¬(front.map Nested.line ++ [g, .line last]).all Nested.isLine := by
    simp [hg]
  have hlines (finish : Text ⊕ List Text → Naming Text) (hfinish : ∀ t, finish (.inl t) = pure t) :
      (front.map Sum.inl).mapM finish = pure front := by
    induction front with
    | nil => rfl
    | cons t front ih =>
      rw [map_cons, mapM_cons, hfinish, ih (by simp [hg])]
      simp
  rw [convertItem, convertInner, if_neg hall, convertInners_append]
  simp only [convertInners, convertInner, convertItem, bind_assoc, pure_bind]
  refine bind_congr fun first => ?_
  cases first <;> simp [hlines]

theorem convertNested_singleton (k : FunctionKind) (g : Nested) :
    k.convertNested [g] = (do return [← k.convertItem g]) := by
  simp only [convertNested, convertInners, convertItem, bind_assoc, pure_bind]
  refine bind_congr fun first => ?_
  cases first <;> simp

end FunctionKind

end Script

end Geoscript
