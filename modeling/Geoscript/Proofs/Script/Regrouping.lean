import Geoscript.Proofs.Script.Grouping

/-! Groups inside of groups. A group is its first line, the lines between, which are grouped in turn, and its last
line. A group of one line has no last line besides its first, and the line is written twice; all other lines are kept.
-/

namespace Geoscript.Script
open List Text Nested
variable {header : Pattern} {n m : Nat} {ls ls' mid : List Text} {items items' inner out out' : List Nested}
  {first last : Text}

/-! ### Groups of one line -/

/-- A group of one line is among the items, or is found between the first and the last line of a group among them. -/
inductive HasSingle (header : Pattern) : List Nested → Prop where
  | here {items : List Nested} {l : Text} (h : .group [.line l] ∈ items) : HasSingle header items
  | between {items inner : List Nested} {first last : Text} {mid : List Text}
      (h : .group ((first :: (mid ++ [last])).map .line) ∈ items) (hinner : groupFunctions header mid = .ok inner)
      (hsingle : HasSingle header inner) : HasSingle header items

namespace HasSingle

theorem mono (h : HasSingle header items) (hsub : items ⊆ items') : HasSingle header items' := by
  cases h with
  | here h => exact .here (hsub h)
  | between h hinner hsingle => exact .between (hsub h) hinner hsingle

theorem append_iff : HasSingle header (items ++ items') ↔ HasSingle header items ∨ HasSingle header items' := by
  constructor
  · intro h
    cases h with
    | here h => exact (mem_append.mp h).imp .here .here
    | between h hinner hsingle =>
      exact (mem_append.mp h).imp (.between · hinner hsingle) (.between · hinner hsingle)
  · rintro (h | h)
    · exact h.mono (subset_append_left _ _)
    · exact h.mono (subset_append_right _ _)

theorem not_lines (ts : List Text) : ¬HasSingle header (ts.map .line) := by
  intro h
  cases h <;> simp_all

theorem group_iff (hinner : groupFunctions header mid = .ok inner) :
    HasSingle header [.group ((first :: (mid ++ [last])).map .line)] ↔ HasSingle header inner := by
  refine ⟨fun h => ?_, .between (mem_singleton_self _) hinner⟩
  cases h with
  | here h => simp at h
  | @between _ _ _ _ mid' h hinner' hsingle =>
    have hlines := map_injective_iff.mpr (fun _ _ => Nested.line.inj) (Nested.group.inj (mem_singleton.mp h))
    obtain ⟨-, hmid⟩ := cons.inj hlines
    obtain rfl : mid' = mid := (append_inj' hmid rfl).1
    obtain rfl := Except.ok.inj (hinner.symm.trans hinner')
    exact hsingle

end HasSingle

/-! ### What a search makes of items -/

theorem flattenList_append (xs ys : List Nested) : flattenList (xs ++ ys) = flattenList xs ++ flattenList ys := by
  induction xs with
  | nil => rfl
  | cons x xs ih => rw [cons_append, flattenList, flattenList, ih, append_assoc]

/-- From `n` rounds on, the search makes `out` of the items. It loses none of their lines, and repeats one if and only
if a group has a single line. -/
structure RegroupsTo (header : Pattern) (n : Nat) (items : List Nested) (ls : List Text) (out : List Nested) :
    Prop where
  result : ∀ depth, n ≤ depth → regroupUpTo header depth items = .ok out
  sublist : ls <+ flattenList out
  same_iff : flattenList out = ls ↔ ¬HasSingle header items

namespace RegroupsTo

theorem mono (h : RegroupsTo header n items ls out) (hle : n ≤ m) : RegroupsTo header m items ls out :=
  ⟨fun depth hdepth => h.result depth (Nat.le_trans hle hdepth), h.sublist, h.same_iff⟩

theorem lines (header : Pattern) (ts : List Text) : RegroupsTo header 0 (ts.map .line) ts (ts.map .line) where
  result depth _ := regroupUpTo_lines header depth ts
  sublist := by rw [flattenList_lines]
  same_iff := by simp only [flattenList_lines, HasSingle.not_lines, not_false_eq_true]

theorem append (h : RegroupsTo header n items ls out) (h' : RegroupsTo header n items' ls' out') :
    RegroupsTo header n (items ++ items') (ls ++ ls') (out ++ out') where
  result depth hdepth := by
    rw [regroupUpTo_append, h.result depth hdepth, h'.result depth hdepth]
    rfl
  sublist := by
    rw [flattenList_append]
    exact h.sublist.append h'.sublist
  same_iff := by
    rw [flattenList_append, HasSingle.append_iff, not_or, ← h.same_iff, ← h'.same_iff]
    refine ⟨fun heq => ?_, fun ⟨hfront, hback⟩ => by rw [hfront, hback]⟩
    -- Neither part got shorter, so that the two parts have their old lengths.
    have hlength := congrArg length heq
    rw [length_append, length_append] at hlength
    have hfront := h.sublist.length_le
    have hback := h'.sublist.length_le
    exact append_inj heq (by omega)

theorem single (header : Pattern) (l : Text) :
    RegroupsTo header 1 [.group [.line l]] [l] [.group [.line l, .line l]] where
  result depth hdepth := by
    obtain ⟨depth, rfl⟩ := Nat.exists_eq_add_of_le' hdepth
    exact regroupUpTo_single header depth l
  sublist := singleton_sublist.mpr mem_cons_self
  same_iff := by
    refine iff_of_false (fun h => ?_) (not_not_intro (.here (mem_singleton_self _)))
    simpa [flattenList, Nested.flatten] using congrArg length h

/-- The first and the last line of a group stay where they are, and the search goes on between them. -/
theorem group (first last : Text) (hinner : groupFunctions header mid = .ok inner)
    (h : RegroupsTo header n inner mid out) :
    RegroupsTo header (n + 1) [.group ((first :: (mid ++ [last])).map .line)] (first :: (mid ++ [last]))
      [.group (.line first :: out ++ [.line last])] := by
  have hline (l : Text) : RegroupsTo header n [.line l] [l] [.line l] := (lines header [l]).mono (Nat.zero_le n)
  have hwhole := (hline first).append (h.append (hline last))
  have hsingle : HasSingle header ([.line first] ++ (inner ++ [.line last])) ↔ HasSingle header inner := by
    have hnot (l : Text) : ¬HasSingle header [.line l] := HasSingle.not_lines [l]
    simp only [HasSingle.append_iff, hnot, false_or, or_false]
  refine ⟨fun depth hdepth => ?_, ?_, ?_⟩
  · obtain ⟨depth, rfl⟩ := Nat.exists_eq_add_of_le' (Nat.le_trans (Nat.succ_pos n) hdepth)
    have hresult := hwhole.result depth (Nat.le_of_succ_le_succ hdepth)
    rw [regroupUpTo_group, hinner]
    exact congrArg (· >>= fun items => pure [Nested.group items]) hresult
  · simpa [flattenList, Nested.flatten] using hwhole.sublist
  · rw [HasSingle.group_iff hinner, ← hsingle, ← hwhole.same_iff]
    simp [flattenList, Nested.flatten]

end RegroupsTo

/-! ### The search as a whole -/

theorem regroups_of_grouped {flags : Text} (h : Grouped flags ls items)
    (hinner : ∀ mid, mid.length < ls.length →
      ∃ inner out, groupFunctions header mid = .ok inner ∧ RegroupsTo header mid.length inner mid out) :
    ∃ out, RegroupsTo header ls.length items ls out := by
  induction h with
  | nil => exact ⟨[], .lines header []⟩
  | @line flags ls items l h ih =>
    obtain ⟨out, hout⟩ := ih fun mid hmid => hinner mid (Nat.lt_succ_of_lt hmid)
    exact ⟨_, ((RegroupsTo.lines header [l]).mono (Nat.zero_le _)).append (hout.mono (Nat.le_succ _))⟩
  | @group flags ls block items hblock hend h ih =>
    have hlength := length_pos_of_ne_nil hblock
    simp only [length_append] at hinner ⊢
    obtain ⟨out, hout⟩ := ih fun mid hmid => hinner mid (by omega)
    have hgroup : ∃ g, RegroupsTo header block.length [.group (block.map .line)] block g := by
      obtain ⟨first, rest, rfl⟩ := exists_cons_of_ne_nil hblock
      rcases eq_nil_or_concat' rest with rfl | ⟨mid, last, rfl⟩
      · exact ⟨_, .single header first⟩
      · have hmid : (first :: (mid ++ [last])).length = mid.length + 1 + 1 := by simp
        obtain ⟨inner, out, hfound, hmade⟩ := hinner mid (by omega)
        exact ⟨_, (RegroupsTo.group first last hfound hmade).mono (by omega)⟩
    obtain ⟨g, hg⟩ := hgroup
    exact ⟨_, (hg.mono (Nat.le_add_right _ _)).append (hout.mono (Nat.le_add_left _ _))⟩

theorem exists_regroups (header : Pattern) (ls : List Text) :
    ∃ items out, groupFunctions header ls = .ok items ∧ RegroupsTo header ls.length items ls out := by
  obtain ⟨items, hitems⟩ := exists_grouped header 0 ls
  obtain ⟨out, hout⟩ := regroups_of_grouped hitems fun mid _ => exists_regroups header mid
  exact ⟨items, out, groupFunctions_of_grouped hitems, hout⟩
termination_by ls.length

mutual

theorem length_flatten_le (item : Nested) : item.flatten.length ≤ item.size := by
  cases item with
  | line t => exact Nat.le_refl 1
  | group items => exact Nat.le_trans (length_flattenList_le items) (Nat.le_add_left _ _)

theorem length_flattenList_le (items : List Nested) : (flattenList items).length ≤ sizeList items := by
  cases items with
  | nil => exact Nat.le_refl 0
  | cons item items =>
    rw [flattenList, length_append, sizeList]
    exact Nat.add_le_add (length_flatten_le item) (length_flattenList_le items)

end

/-- The search for groups inside of groups ends for all lines and every header, after at most as many rounds as there
are lines. No line is lost, and none is repeated if and only if no group has a single line. -/
theorem regroup_keeps_lines_iff (header : Pattern) (ls : List Text) :
    ∃ groups items, groupFunctions header ls = .ok groups ∧ regroup header groups = .ok items ∧
      (∀ depth, ls.length ≤ depth → regroupUpTo header depth groups = .ok items) ∧ ls <+ flattenList items ∧
      (flattenList items = ls ↔ ¬HasSingle header groups) := by
  obtain ⟨groups, items, hgroups, hitems⟩ := exists_regroups header ls
  have hrounds : ls.length ≤ sizeList groups + 1 := by
    obtain ⟨found, hfound⟩ := exists_grouped header 0 ls
    obtain rfl := Except.ok.inj (hgroups.symm.trans (groupFunctions_of_grouped hfound))
    exact Nat.le_succ_of_le (hfound.flattenList_eq ▸ length_flattenList_le groups)
  exact ⟨groups, items, hgroups, hitems.result _ hrounds, hitems.result, hitems.sublist, hitems.same_iff⟩

theorem groupFunctions_single {l : Text} (h : (header.matchStart? l).isSome) :
    groupFunctions header [l] = .ok [.group [.line l]] := by
  have hflags : functionFlags header 0 [l] = ['1'] := by simp [functionFlags, h]
  exact groupFunctions_of_grouped (hflags.symm ▸ Grouped.group (cons_ne_nil l []) (by simp) .nil)

/-- A function that is closed in its first line comes back with that line twice. -/
theorem one_line_function_repeated : ∃ groups items,
    groupFunctions FunctionKind.standalone.header ["function f() \x7b\x7d".toList] = .ok groups ∧
    regroup FunctionKind.standalone.header groups = .ok items ∧
    flattenList items = ["function f() \x7b\x7d".toList, "function f() \x7b\x7d".toList] := by
  have hgroups := groupFunctions_single (show (FunctionKind.standalone.header.matchStart?
    "function f() \x7b\x7d".toList).isSome by cbv)
  obtain ⟨groups, items, hfound, hitems, -⟩ :=
    regroup_keeps_lines_iff FunctionKind.standalone.header ["function f() \x7b\x7d".toList]
  have htwice := (RegroupsTo.single FunctionKind.standalone.header "function f() \x7b\x7d".toList).result
  rw [hgroups] at hfound
  obtain rfl := Except.ok.inj hfound
  obtain rfl := Except.ok.inj ((htwice _ (Nat.le_add_left 1 _)).symm.trans hitems)
  exact ⟨_, _, hgroups, hitems, rfl⟩

end Geoscript.Script
