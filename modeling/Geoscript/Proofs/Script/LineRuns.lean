import Geoscript.Proofs.Script.Grouping
import Geoscript.Script.Continuation

/-! Runs of flagged lines with the line before them (`withPrevious`) or behind them (`withNext`). The slots are groups
of consecutive places (`grouped`), so every place is in one of them; only a run at an end asks for a place outside. -/

namespace Geoscript
open List

/-! ### Failing -/

theorem mapM_error_or_ok {α β : Type} {f : α → Except Fault β} {e : Fault} (hone : ∀ a e', f a = .error e' → e' = e)
    (as : List α) : as.mapM f = .error e ∨ ∃ bs, as.mapM f = .ok bs ∧ ∀ a ∈ as, ∃ b, f a = .ok b := by
  induction as with
  | nil => exact .inr ⟨[], rfl, by simp⟩
  | cons a as ih =>
    rw [mapM_cons]
    cases ha : f a with
    | error e' => exact .inl (congrArg Except.error (hone a e' ha))
    | ok b =>
      rcases ih with has | ⟨bs, has, hall⟩
      · exact .inl (by rw [has]; rfl)
      · exact .inr ⟨b :: bs, by rw [has]; rfl, forall_mem_cons.mpr ⟨⟨b, ha⟩, hall⟩⟩

theorem mapM_eq_error {α β : Type} {f : α → Except Fault β} {as : List α} {a : α} {e : Fault} (ha : a ∈ as)
    (he : f a = .error e) (hone : ∀ b e', f b = .error e' → e' = e) : as.mapM f = .error e := by
  refine (mapM_error_or_ok hone as).resolve_right ?_
  rintro ⟨-, -, hall⟩
  obtain ⟨b, hb⟩ := hall a ha
  cases he.symm.trans hb

theorem eq_outOfRange_of_elementAt {α : Type} {xs : List α} {i : Int} {e : Fault} (h : elementAt xs i = .error e) :
    e = .outOfRange := by
  simp only [elementAt] at h
  generalize (if i < 0 then xs.length + i else i) = place at h
  split at h
  · exact (Except.error.inj h).symm
  · split at h
    · cases h
    · exact (Except.error.inj h).symm

namespace Slot
variable {α β : Type}

/-! ### Groups -/

def attach (x : α) : List (List α) → List (List α)
  | [] => [[x]]
  | g :: gs => (x :: g) :: gs

/-- The elements in groups: one that is marked belongs to the group of the one behind it. -/
def grouped : List Bool → List α → List (List α)
  | _, [] => []
  | [], x :: xs => [x] :: grouped [] xs
  | mark :: marks, x :: xs => if mark then attach x (grouped marks xs) else [x] :: grouped marks xs

theorem grouped_false (marks : List Bool) (x : α) (xs : List α) :
    grouped (false :: marks) (x :: xs) = [x] :: grouped marks xs :=
  rfl

theorem grouped_true (marks : List Bool) (x : α) (xs : List α) :
    grouped (true :: marks) (x :: xs) = attach x (grouped marks xs) :=
  rfl

theorem grouped_cons (marks : List Bool) (x : α) (xs : List α) : ∃ g gs, grouped marks (x :: xs) = (x :: g) :: gs := by
  cases marks with
  | nil => exact ⟨[], _, rfl⟩
  | cons mark marks =>
    cases mark with
    | false => exact ⟨[], _, rfl⟩
    | true =>
      rw [grouped_true]
      cases grouped marks xs with
      | nil => exact ⟨[], [], rfl⟩
      | cons g gs => exact ⟨g, gs, rfl⟩

theorem flatten_attach (x : α) (groups : List (List α)) : (attach x groups).flatten = x :: groups.flatten := by
  cases groups <;> rfl

theorem flatten_grouped (marks : List Bool) (xs : List α) : (grouped marks xs).flatten = xs := by
  induction xs generalizing marks with
  | nil => cases marks <;> rfl
  | cons x xs ih =>
    cases marks with
    | nil => exact congrArg (x :: ·) (ih [])
    | cons mark marks =>
      cases mark with
      | false => exact congrArg (x :: ·) (ih marks)
      | true => rw [grouped_true, flatten_attach, ih]

theorem forall₂_grouped {R : α → β → Prop} {xs : List α} {ys : List β} (h : Forall₂ R xs ys)
    (marks : List Bool) : Forall₂ (Forall₂ R) (grouped marks xs) (grouped marks ys) := by
  induction h generalizing marks with
  | nil => cases marks <;> exact .nil
  | @cons x y xs ys hxy _ ih =>
    cases marks with
    | nil => exact .cons (.cons hxy .nil) (ih [])
    | cons mark marks =>
      cases mark with
      | false => exact .cons (.cons hxy .nil) (ih marks)
      | true =>
        have hrest := ih marks
        rw [grouped_true, grouped_true]
        generalize grouped marks xs = groups at hrest ⊢
        generalize grouped marks ys = groups' at hrest ⊢
        cases hrest with
        | nil => exact .cons (.cons hxy .nil) .nil
        | cons hg hgs => exact .cons (.cons hxy hg) hgs

def ofGroup : List Int → Slot
  | [i] => .line i
  | is => .block is

theorem indices_ofGroup (is : List Int) : (ofGroup is).indices = is := by
  unfold ofGroup
  split <;> rfl

/-- The slots of groups, where the first one continues an open run. -/
def behindRun (run : List Int) : List (List Int) → List Slot
  | [] => [.block run]
  | g :: gs => .block (run ++ g) :: gs.map ofGroup

theorem behindRun_attach (run : List Int) (i : Int) (groups : List (List Int)) :
    behindRun run (attach i groups) = behindRun (run ++ [i]) groups := by
  cases groups <;> simp [attach, behindRun]

theorem map_attach_grouped (i j : Int) (marks : List Bool) (is : List Int) :
    (attach i (grouped marks (j :: is))).map ofGroup = behindRun [i] (grouped marks (j :: is)) := by
  obtain ⟨g, gs, hgroups⟩ := grouped_cons marks j is
  rw [hgroups]
  rfl

/-! ### Places -/

variable {lo hi : Int}

theorem interval_nil (h : hi < lo) : interval lo hi = [] := by
  have hnone : (hi - lo + 1).toNat = 0 := by omega
  rw [interval, hnone]
  rfl

theorem interval_cons (h : lo ≤ hi) : interval lo hi = lo :: interval (lo + 1) hi := by
  have hmore : (hi - lo + 1).toNat = (hi - (lo + 1) + 1).toNat + 1 := by omega
  rw [interval, hmore, range_succ_eq_map, map_cons, map_map, interval]
  refine congr (congrArg _ (by simp)) (map_congr_left fun k _ => ?_)
  simp only [Function.comp_apply]
  omega

theorem interval_self (i : Int) : interval i i = [i] := by
  rw [interval_cons (Int.le_refl i), interval_nil (by omega)]

theorem interval_concat (h : lo ≤ hi) : interval lo (hi - 1) ++ [hi] = interval lo hi := by
  have hmore : (hi - lo + 1).toNat = (hi - 1 - lo + 1).toNat + 1 := by omega
  have hlast : lo + ((hi - 1 - lo + 1).toNat : Int) = hi := by omega
  rw [interval, interval, hmore, range_succ, map_append, map_singleton, hlast]

theorem interval_succ (h : lo ≤ hi) : interval lo hi ++ [hi + 1] = interval lo (hi + 1) := by
  have hmore := interval_concat (show lo ≤ hi + 1 by omega)
  rwa [Int.add_sub_cancel] at hmore

/-! ### The slots of the two rules -/

theorem previousFrom_none (i : Nat) (fs : List Bool) : previousFrom i none ((true :: fs).map flag) =
    previousFrom i (some (i - 1 : Int)) ((true :: fs).map flag) :=
  rfl

theorem nextFrom_none (i : Nat) (fs : List Bool) : nextFrom i none ((true :: fs).map flag) =
    nextFrom i (some (i : Int)) ((true :: fs).map flag) :=
  rfl

variable (fs : List Bool)

/-- From a line on: without an open run behind a line that is not flagged, and with a run that is open since `a`. -/
theorem previousFrom_eq (i : Nat) :
    previousFrom i none ((false :: fs).map flag) = (grouped fs (interval i (i + fs.length))).map ofGroup ∧
    ∀ a : Int, a < i → previousFrom i (some a) ((true :: fs).map flag) =
      behindRun (interval a (i - 1)) (grouped fs (interval i (i + fs.length))) := by
  induction fs generalizing i with
  | nil =>
    have hplaces : interval (i : Int) (i + ([] : List Bool).length) = [(i : Int)] := by
      simpa using interval_self i
    rw [hplaces]
    refine ⟨rfl, fun a ha => ?_⟩
    rw [grouped, behindRun, interval_concat (Int.le_of_lt ha)]
    rfl
  | cons f fs ih =>
    have hplaces : interval (i : Int) (i + (f :: fs).length) =
        (i : Int) :: interval ((i + 1 : Nat) : Int) ((i + 1 : Nat) + fs.length) := by
      rw [interval_cons (by omega), length_cons]
      exact congrArg _ (congrArg₂ interval (by omega) (by omega))
    have hlast : ((i + 1 : Nat) : Int) - 1 = i := by omega
    obtain ⟨hline, hrun⟩ := ih (i + 1)
    rw [hlast] at hrun
    rw [hplaces]
    cases f with
    | false =>
      refine ⟨congrArg (Slot.line i :: ·) hline, fun a ha => ?_⟩
      rw [grouped_false, behindRun, interval_concat (Int.le_of_lt ha)]
      exact congrArg (Slot.block (interval a i) :: ·) hline
    | true =>
      rw [grouped_true]
      constructor
      · -- The line belongs to the run behind it.
        have hstep : previousFrom i none ((false :: true :: fs).map flag) =
            previousFrom (i + 1) none ((true :: fs).map flag) := rfl
        rw [hstep, previousFrom_none, hlast, hrun i (by omega), interval_self,
          interval_cons (show ((i + 1 : Nat) : Int) ≤ _ by omega), map_attach_grouped]
      · intro a ha
        rw [behindRun_attach, interval_concat (Int.le_of_lt ha)]
        exact hrun a (by omega)

theorem withPrevious_false :
    withPrevious ((false :: fs).map flag) = (grouped fs (interval 0 fs.length)).map ofGroup := by
  have hslots := (previousFrom_eq fs 0).1
  change _ = (grouped fs (interval 0 (0 + fs.length))).map ofGroup at hslots
  rwa [Int.zero_add] at hslots

theorem withPrevious_true :
    withPrevious ((true :: fs).map flag) = (grouped (true :: fs) (interval (-1) fs.length)).map ofGroup := by
  have hplaces : interval (-1) fs.length = -1 :: interval 0 (0 + fs.length) := by
    rw [interval_cons (by omega), Int.zero_add]
    rfl
  rw [hplaces, grouped_true, interval_cons (by omega), map_attach_grouped, ← interval_cons (by omega)]
  exact (previousFrom_eq fs 0).2 (-1) (by decide)

/-- The last place that `withNext` takes: behind the last line if that one is flagged. -/
def reach (fs : List Bool) : Int :=
  fs.length - 1 + if fs.getLast? = some true then 1 else 0

theorem reach_cons (f g : Bool) (fs : List Bool) : reach (f :: g :: fs) = reach (g :: fs) + 1 := by
  simp only [reach, getLast?_cons_cons, length_cons]
  omega

theorem reach_nonneg (f : Bool) (fs : List Bool) : 0 ≤ reach (f :: fs) := by
  simp only [reach, length_cons]
  split <;> omega

theorem one_le_reach : 1 ≤ reach (true :: fs) := by
  cases fs with
  | nil => decide
  | cons g fs =>
    have hreach := reach_nonneg g fs
    rw [reach_cons]
    omega

/-- From behind a line on: without an open run if the line is not flagged, and with a run that is open since `a`. -/
theorem nextFrom_eq (i : Nat) :
    nextFrom i none ((false :: fs).map flag) = (grouped fs (interval (i + 1) (i + reach (false :: fs)))).map ofGroup ∧
    ∀ a : Int, a ≤ i → nextFrom i (some a) ((true :: fs).map flag) =
      behindRun (interval a i) (grouped fs (interval (i + 1) (i + reach (true :: fs)))) := by
  induction fs generalizing i with
  | nil =>
    have hnone : interval ((i : Int) + 1) (i + reach [false]) = [] :=
      interval_nil (by rw [show reach [false] = 0 from rfl]; omega)
    have hone : interval ((i : Int) + 1) (i + reach [true]) = [(i : Int) + 1] := interval_self _
    rw [hnone, hone]
    refine ⟨rfl, fun a ha => ?_⟩
    rw [grouped, behindRun, interval_succ ha]
    rfl
  | cons f fs ih =>
    have hreach := reach_nonneg f fs
    have hplaces (e : Bool) : interval ((i : Int) + 1) (i + reach (e :: f :: fs)) =
        ((i : Int) + 1) :: interval (((i + 1 : Nat) : Int) + 1) ((i + 1 : Nat) + reach (f :: fs)) := by
      rw [reach_cons, interval_cons (by omega)]
      exact congrArg _ (congrArg₂ interval (by omega) (by omega))
    obtain ⟨hline, hrun⟩ := ih (i + 1)
    rw [hplaces false, hplaces true]
    cases f with
    | false =>
      refine ⟨congrArg (Slot.line (i + 1) :: ·) hline, fun a ha => ?_⟩
      rw [grouped_false, behindRun, interval_succ ha]
      exact congrArg (Slot.block (interval a (i + 1)) :: ·) hline
    | true =>
      have hmore := one_le_reach fs
      rw [grouped_true]
      constructor
      · have hstep : nextFrom i none ((false :: true :: fs).map flag) =
            nextFrom (i + 1) none ((true :: fs).map flag) := rfl
        rw [hstep, nextFrom_none, hrun _ (Int.le_refl _), interval_self, interval_cons (by omega), map_attach_grouped]
        rfl
      · intro a ha
        rw [behindRun_attach, interval_succ ha]
        exact hrun a (by omega)

theorem withNext_eq (f : Bool) (fs : List Bool) : withNext ((f :: fs).map flag) =
    (if f then [.line 0] else []) ++ (grouped (f :: fs) (interval 0 (reach (f :: fs)))).map ofGroup := by
  have hplaces : interval 0 (reach (f :: fs)) = 0 :: interval ((0 : Nat) + 1) ((0 : Nat) + reach (f :: fs)) := by
    rw [interval_cons (reach_nonneg f fs)]
    exact congrArg _ (congrArg₂ interval (by omega) (by omega))
  obtain ⟨hline, hrun⟩ := nextFrom_eq fs 0
  rw [hplaces]
  cases f with
  | false => exact congrArg (Slot.line 0 :: ·) hline
  | true =>
    have hmore := one_le_reach fs
    rw [withNext, nextFrom_none, hrun _ (Int.le_refl _), interval_self, grouped_true, interval_cons (by omega),
      map_attach_grouped]
    rfl

/-! ### What the slots make of lines -/

variable {ls : List Text}

theorem mapM_grouped {f : Slot → Except Fault Text} {h : List Text → Text} {places : List Int} {xs : List Text}
    (hf : ∀ is ys, Forall₂ (fun i y => elementAt ls i = .ok y) is ys → f (ofGroup is) = .ok (h ys))
    (hplaces : Forall₂ (fun i x => elementAt ls i = .ok x) places xs) (marks : List Bool) :
    ((grouped marks places).map ofGroup).mapM f = .ok ((grouped marks xs).map h) := by
  refine mapM_eq_ok ?_
  rw [forall₂_map_left_iff, forall₂_map_right_iff]
  exact (forall₂_grouped hplaces marks).imp hf

theorem text_of_indices {slot : Slot} {ys : List Text}
    (h : Forall₂ (fun i y => elementAt ls i = .ok y) slot.indices ys) : text ls slot = .ok ys.flatten := by
  cases slot with
  | line i =>
    cases h with
    | cons hy hnil =>
      cases hnil
      rw [text, hy, flatten_singleton]
  | block is =>
    rw [indices] at h
    rw [text, mapM_eq_ok h]
    rfl

theorem text_outOfRange {slot : Slot} {i : Int} (hi : i ∈ slot.indices) (h : elementAt ls i = .error .outOfRange) :
    text ls slot = .error .outOfRange := by
  cases slot with
  | line j =>
    obtain rfl := mem_singleton.mp hi
    exact h
  | block is =>
    have hpieces : is.mapM (elementAt ls) = .error .outOfRange :=
      mapM_eq_error hi h fun _ _ => eq_outOfRange_of_elementAt
    rw [text, hpieces]
    rfl

theorem eq_outOfRange_of_text {slot : Slot} {e : Fault} (h : text ls slot = .error e) : e = .outOfRange := by
  cases slot with
  | line i => exact eq_outOfRange_of_elementAt h
  | block is =>
    rcases mapM_error_or_ok (fun _ _ => eq_outOfRange_of_elementAt) is with his | ⟨pieces, his, -⟩
    · rw [text, his] at h
      exact (Except.error.inj h).symm
    · rw [text, his] at h
      cases h

theorem forall₂_interval (ls : List Text) :
    Forall₂ (fun i x => elementAt ls i = .ok x) (interval 0 (ls.length - 1)) ls := by
  have hplaces := forall₂_elementAt [] ls []
  have hcount : ((ls.length : Int) - 1 - 0 + 1).toNat = ls.length := by omega
  rw [interval, hcount]
  simpa using hplaces

theorem elementAt_length (ls : List Text) : elementAt ls ls.length = .error .outOfRange := by
  have hnonneg : ¬(ls.length : Int) < 0 := by omega
  simp [elementAt, hnonneg]

variable {f : Bool} {fs : List Bool} {l : Text}

theorem texts_withNext_of_open_end (hlen : (l :: ls).length = (f :: fs).length)
    (hlast : (f :: fs).getLast? = some true) :
    texts (l :: ls) (withNext ((f :: fs).map flag)) = .error .outOfRange := by
  have hreach : reach (f :: fs) = (l :: ls).length := by
    rw [reach, if_pos hlast, hlen]
    omega
  have hmem : ((l :: ls).length : Int) ∈ (grouped (f :: fs) (interval 0 (reach (f :: fs)))).flatten := by
    rw [flatten_grouped, hreach, ← interval_concat (by omega)]
    exact mem_append_right _ mem_cons_self
  obtain ⟨is, his, hi⟩ := mem_flatten.mp hmem
  rw [withNext_eq]
  refine mapM_eq_error (mem_append_right _ (mem_map_of_mem his)) ?_ fun _ _ => eq_outOfRange_of_text
  exact text_outOfRange (by rwa [indices_ofGroup]) (elementAt_length _)

theorem texts_withNext (hlen : (l :: ls).length = (f :: fs).length) (hlast : (f :: fs).getLast? ≠ some true) :
    texts (l :: ls) (withNext ((f :: fs).map flag)) =
      .ok ((if f then [l] else []) ++ (grouped (f :: fs) (l :: ls)).map flatten) := by
  have hreach : reach (f :: fs) = (l :: ls).length - 1 := by
    rw [reach, if_neg hlast, hlen]
    omega
  have hgroups := mapM_grouped (fun is _ h => text_of_indices ((indices_ofGroup is).symm ▸ h))
    (forall₂_interval (l :: ls)) (f :: fs)
  rw [← hreach] at hgroups
  rw [withNext_eq]
  cases f with
  | false => exact hgroups
  | true =>
    have hfirst : text (l :: ls) (.line 0) = .ok l := rfl
    rw [if_pos rfl, singleton_append, texts, mapM_cons, hfirst, hgroups]
    rfl

end Slot

namespace Script
open Text Slot

/-- The line that a chain makes: only its first line keeps its blanks. -/
def chained : List Text → Text
  | [] => []
  | l :: ls => l ++ (ls.map trim).flatten

variable {l : Text} {ls : List Text}

theorem chainText_ofGroup (is : List Int) (ys : List Text)
    (h : Forall₂ (fun i y => elementAt ls i = .ok y) is ys) : chainText ls (ofGroup is) = .ok (chained ys) := by
  cases h with
  | nil => rfl
  | cons hy hrest =>
    cases hrest with
    | nil =>
      rw [ofGroup, chainText, hy, chained]
      exact congrArg Except.ok (append_nil _).symm
    | cons hz hrest =>
      change chainText ls (.block _) = _
      rw [chainText, hy, mapM_eq_ok (.cons hz hrest)]
      rfl

theorem elementAt_last {last : Text} (h : ls.getLast? = some last) : elementAt ls (-1) = .ok last := by
  rw [getLast?_eq_getElem?] at h
  have hlen : 0 < ls.length := by
    by_contra hzero
    rw [getElem?_eq_none (by omega)] at h
    cases h
  have hplace : ((ls.length : Int) + -1).toNat = ls.length - 1 := by omega
  have hnonneg : ¬(ls.length : Int) + -1 < 0 := by omega
  simp [elementAt, hnonneg, hplace, h]

variable {fs : List Bool}

theorem chains_withPrevious_false (hlen : (l :: ls).length = (false :: fs).length) :
    (withPrevious ((false :: fs).map flag)).mapM (chainText (l :: ls)) = .ok ((grouped fs (l :: ls)).map chained) := by
  have hplaces : (fs.length : Int) = (l :: ls).length - 1 := by
    rw [hlen, length_cons]
    omega
  rw [withPrevious_false, hplaces]
  exact mapM_grouped chainText_ofGroup (forall₂_interval (l :: ls)) fs

theorem chains_withPrevious_true {last : Text} (hlen : (l :: ls).length = (true :: fs).length)
    (hlast : (l :: ls).getLast? = some last) : (withPrevious ((true :: fs).map flag)).mapM (chainText (l :: ls)) =
      .ok ((grouped (true :: fs) (last :: l :: ls)).map chained) := by
  have hplaces : interval (-1) fs.length = -1 :: interval 0 ((l :: ls).length - 1) := by
    rw [interval_cons (by omega), hlen, length_cons]
    exact congrArg _ (congrArg₂ interval rfl (by omega))
  rw [withPrevious_true, hplaces]
  exact mapM_grouped chainText_ofGroup (.cons (elementAt_last hlast) (forall₂_interval (l :: ls))) (true :: fs)

end Script

end Geoscript
