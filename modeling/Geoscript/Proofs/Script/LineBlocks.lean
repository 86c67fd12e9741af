import Geoscript.Proofs.Script.JoinedLines

/-! The lines of each slot, by number. No line is lost, and the blocks are the maximal runs of set flags; where the flag
behind a set one counts too, each block has one line more. -/

namespace Geoscript.Slot
open List hiding length_replace
open Text
variable {s t x : Text} {n a b : Nat} {P : Nat → Nat → Prop}

/-! ### Maximal runs -/

/-- A stretch of ones that no other one stands next to. -/
structure MaximalRun (s : Text) (a b : Nat) : Prop where
  lt : a < b
  ones : ∀ k, a ≤ k → k < b → s[k]? = some '1'
  before : ∀ k, k + 1 = a → s[k]? ≠ some '1'
  behind : s[b]? ≠ some '1'

theorem maximalRun_append (h : x.getLast? ≠ some '1' ∨ t.head? ≠ some '1') :
    MaximalRun (x ++ t) (x.length + a) (x.length + b) ↔ MaximalRun t a b := by
  have hget (k : Nat) : (x ++ t)[x.length + k]? = t[k]? := by
    rw [getElem?_append_right (Nat.le_add_right ..), Nat.add_sub_cancel_left]
  constructor
  · intro hrun
    exact ⟨Nat.lt_of_add_lt_add_left hrun.lt, fun k ha hb => hget k ▸ hrun.ones _ (by omega) (by omega),
      fun k hk => hget k ▸ hrun.before _ (by omega), hget b ▸ hrun.behind⟩
  · intro hrun
    refine ⟨Nat.add_lt_add_left hrun.lt _, fun k ha hb => ?_, fun k hk hone => ?_, (hget b).symm ▸ hrun.behind⟩
    · obtain ⟨k, rfl⟩ := Nat.exists_eq_add_of_le (show x.length ≤ k by omega)
      exact (hget k).trans (hrun.ones k (by omega) (by omega))
    · cases a with
      | zero =>
        rw [getElem?_append_left (by omega), show k = x.length - 1 by omega, ← getLast?_eq_getElem?] at hone
        have hfirst := hrun.ones 0 (Nat.le_refl 0) hrun.lt
        rw [← head?_eq_getElem?] at hfirst
        exact h.elim (absurd hone) (absurd hfirst)
      | succ a =>
        obtain rfl : k = x.length + a := by omega
        exact hrun.before a rfl ((hget a).symm.trans hone)

/-- The runs of a text start in its front or are runs of the rest. -/
theorem exists_run_append (h : x.getLast? ≠ some '1' ∨ t.head? ≠ some '1') :
    (∃ a b, MaximalRun (x ++ t) a b ∧ P a b) ↔ (∃ a b, a < x.length ∧ MaximalRun (x ++ t) a b ∧ P a b) ∨
      ∃ a b, MaximalRun t a b ∧ P (x.length + a) (x.length + b) := by
  constructor
  · rintro ⟨a, b, hrun, hp⟩
    rcases Nat.lt_or_ge a x.length with ha | ha
    · exact .inl ⟨a, b, ha, hrun, hp⟩
    · have hlt := hrun.lt
      obtain ⟨a, rfl⟩ := Nat.exists_eq_add_of_le ha
      obtain ⟨b, rfl⟩ := Nat.exists_eq_add_of_le (show x.length ≤ b by omega)
      exact .inr ⟨a, b, (maximalRun_append h).mp hrun, hp⟩
  · rintro (⟨a, b, -, hrun, hp⟩ | ⟨a, b, hrun, hp⟩)
    · exact ⟨a, b, hrun, hp⟩
    · exact ⟨_, _, (maximalRun_append h).mpr hrun, hp⟩

theorem exists_run_zero : (∃ a b, MaximalRun ('0' :: t) a b ∧ P a b) ↔ ∃ a b, MaximalRun t a b ∧ P (1 + a) (1 + b) := by
  refine (exists_run_append (x := ['0']) (.inl (by decide))).trans (or_iff_right ?_)
  rintro ⟨a, b, ha, hrun, -⟩
  obtain rfl := Nat.lt_one_iff.mp ha
  cases hrun.ones 0 (Nat.le_refl 0) hrun.lt

theorem exists_run_ones (h : t.head? ≠ some '1') : (∃ a b, MaximalRun (replicate (n + 1) '1' ++ t) a b ∧ P a b) ↔
      P 0 (n + 1) ∨ ∃ a b, MaximalRun t a b ∧ P (n + 1 + a) (n + 1 + b) := by
  have hone (k : Nat) (hk : k < n + 1) : (replicate (n + 1) '1' ++ t)[k]? = some '1' := by
    rw [getElem?_append_left (by simpa using hk), getElem?_replicate, if_pos hk]
  have hend : (replicate (n + 1) '1' ++ t)[n + 1]? ≠ some '1' := by
    rw [getElem?_append_right (by simp)]
    simpa [← head?_eq_getElem?] using h
  refine (exists_run_append (.inr h)).trans (or_congr ⟨?_, fun hp => ?_⟩ (by rw [length_replicate]))
  · rintro ⟨a, b, ha, hrun, hp⟩
    rw [length_replicate] at ha
    cases a with
    | succ a => exact absurd (hone a (by omega)) (hrun.before a rfl)
    | zero =>
      rcases Nat.lt_trichotomy b (n + 1) with hb | rfl | hb
      · exact absurd (hone b hb) hrun.behind
      · exact hp
      · exact absurd (hrun.ones (n + 1) (Nat.zero_le _) hb) hend
  · exact ⟨0, n + 1, by simp, ⟨n.succ_pos, fun k _ => hone k, fun k hk => absurd hk k.succ_ne_zero, hend⟩, hp⟩

theorem not_exists_run_nil : ¬∃ a b, MaximalRun [] a b ∧ P a b := by
  rintro ⟨a, b, hrun, -⟩
  simpa using hrun.ones a (Nat.le_refl a) hrun.lt

/-- Zeros and ones from the left: a zero, or all ones up to the next zero or the end. -/
inductive Peeled : Text → Prop where
  | nil : Peeled []
  | zero {t : Text} (h : Peeled t) : Peeled ('0' :: t)
  | ones (n : Nat) : Peeled (replicate (n + 1) '1')
  | between {t : Text} (n : Nat) (ht : ∀ c ∈ t, c = '0' ∨ c = '1') (h : Peeled t) :
    Peeled (replicate (n + 1) '1' ++ '0' :: t)

theorem peeled (h : ∀ c ∈ s, c = '0' ∨ c = '1') : Peeled s := by
  suffices hboth : Peeled s ∧ ∀ n, Peeled (replicate (n + 1) '1' ++ s) from hboth.1
  induction s with
  | nil => exact ⟨.nil, fun n => (append_nil _).symm ▸ .ones n⟩
  | cons c t ih =>
    obtain ⟨hc, ht⟩ := forall_mem_cons.mp h
    obtain ⟨hrest, hones⟩ := ih ht
    rcases hc with rfl | rfl
    · exact ⟨.zero hrest, fun n => .between n ht hrest⟩
    · refine ⟨hones 0, fun n => ?_⟩
      have := hones (n + 1)
      rwa [replicate_succ', append_assoc] at this

/-! ### Slots -/

theorem exists_getElem?_cons {p : Nat → Prop} {c d : Char} :
    (∃ k, p k ∧ (d :: t)[k]? = some c) ↔ (p 0 ∧ d = c) ∨ ∃ k, p (k + 1) ∧ t[k]? = some c := by
  rw [← Nat.or_exists_add_one]
  simp

theorem exists_zero_ones {p : Nat → Prop} : (∃ k, p k ∧ (replicate n '1' ++ t)[k]? = some '0') ↔
    ∃ k, p (k + n) ∧ t[k]? = some '0' := by
  induction n generalizing p with
  | zero => rfl
  | succ n ih =>
    rw [replicate_succ, cons_append, exists_getElem?_cons, ih]
    simp [Nat.add_assoc]

theorem slots_of_flags (h : Peeled s) (start : Nat) : ∃ slots, ofRuns start (runs s) = .ok slots ∧
    (∀ i : Int, .line i ∈ slots ↔ ∃ k : Nat, i = (start + k : Nat) ∧ s[k]? = some '0') ∧
      ∀ is, .block is ∈ slots ↔ ∃ a b, MaximalRun s a b ∧ is = numbers (start + a) (b - a) := by
  induction h generalizing start with
  | nil => exact ⟨[], rfl, by simp, fun is => by simpa using not_exists_run_nil⟩
  | @zero t _ ih =>
    obtain ⟨slots, hslots, hlines, hblocks⟩ := ih (start + 1)
    refine ⟨.line start :: slots, by rw [ofRuns_runs_zero, hslots]; rfl, fun i => ?_, fun is => ?_⟩
    · rw [mem_cons, hlines, exists_getElem?_cons]
      simp only [Nat.add_right_comm start 1]
      simp [Int.add_assoc]
    · rw [mem_cons, hblocks, exists_run_zero]
      simp [Nat.add_assoc, Nat.add_sub_add_left]
  | ones n =>
    refine ⟨[.block (numbers start (n + 1))], ?_, fun i => ?_, fun is => ?_⟩
    · rw [← append_nil (replicate (n + 1) '1'), runs_ones n (by simp) (by simp), ofRuns_ones]
      rfl
    · simp [getElem?_replicate]
    · rw [← append_nil (replicate (n + 1) '1'), exists_run_ones (by simp), or_iff_left not_exists_run_nil]
      simp
  | @between t n ht _ ih =>
    obtain ⟨slots, hslots, hlines, hblocks⟩ := ih (start + (n + 1 + 1))
    refine ⟨.block (numbers start (n + 1)) :: .line (start + (n + 1) : Nat) :: slots, ?_, fun i => ?_, fun is => ?_⟩
    · rw [runs_ones n (by simpa using ht) (by simp), ofRuns_ones, ofRuns_runs_zero, Nat.add_assoc, hslots]
      rfl
    · rw [mem_cons, mem_cons, hlines, exists_zero_ones, exists_getElem?_cons]
      simp [Int.add_comm, Int.add_left_comm]
    · rw [mem_cons, mem_cons, hblocks, exists_run_ones (by simp), exists_run_zero]
      simp only [← Nat.add_assoc, Nat.add_sub_add_left]
      simp

theorem runs_two (n : Nat) (t : Text) :
    runs (replicate (n + 1) '1' ++ '2' :: t) = (replicate (n + 1) '1' ++ ['2']) :: runs t := by
  refine runs_lead (n + 1) (by decide) ?_
  cases t with
  | nil => rfl
  | cons c t =>
    obtain ⟨g, gs, hruns, -⟩ := runs_cons c t
    simp [runs, hruns, joins]

theorem replace_ones (n : Nat) (t : Text) : replace "10" "12" (replicate n '1' ++ '1' :: t) =
    replicate n '1' ++ replace "10" "12" ('1' :: t) := by
  induction n with
  | zero => rfl
  | succ n ih =>
    have hpre : ¬"10" <+: '1' :: (replicate n '1' ++ '1' :: t) := by
      cases n <;> simp [replicate_succ]
    rw [replicate_succ, cons_append, replace_cons (by decide) hpre, ih]
    rfl

theorem slots_of_raised (h : Peeled s) (start : Nat) :
    ∃ slots, ofRuns start (runs (replace "10" "12" s)) = .ok slots ∧ ∀ is, .block is ∈ slots ↔
      ∃ a b, MaximalRun s a b ∧ is = numbers (start + a) (min (b + 1) s.length - a) := by
  induction h generalizing start with
  | nil => exact ⟨[], rfl, fun is => by simpa using not_exists_run_nil⟩
  | @zero t _ ih =>
    obtain ⟨slots, hslots, hblocks⟩ := ih (start + 1)
    refine ⟨.line start :: slots, ?_, fun is => ?_⟩
    · rw [replace_cons (by decide) (by simp), ofRuns_runs_zero, hslots]
      rfl
    · have hlength (a b : Nat) : min (b + 1) t.length - a = min (1 + b + 1) (t.length + 1) - (1 + a) := by omega
      rw [mem_cons, hblocks, exists_run_zero]
      simp only [hlength, Nat.add_assoc]
      simp
  | ones n =>
    refine ⟨[.block (numbers start (n + 1))], ?_, fun is => ?_⟩
    · have hkept : replace "10" "12" (replicate (n + 1) '1') = replicate (n + 1) '1' ++ [] := by
        rw [append_nil, replicate_succ', replace_ones]
        rfl
      rw [hkept, runs_ones n (by simp) (by simp), ofRuns_ones]
      rfl
    · rw [← append_nil (replicate (n + 1) '1'), exists_run_ones (by simp), or_iff_left not_exists_run_nil]
      simp
  | @between t n ht _ ih =>
    obtain ⟨slots, hslots, hblocks⟩ := ih (start + (n + 1 + 1))
    refine ⟨.block (numbers start (n + 1 + 1)) :: slots, ?_, fun is => ?_⟩
    · have hraised : replace "10" "12" (replicate (n + 1) '1' ++ '0' :: t) =
          replicate (n + 1) '1' ++ '2' :: replace "10" "12" t := by
        rw [replicate_succ', append_assoc, append_assoc]
        exact (replace_ones n _).trans (congrArg _ (replace_append (by decide) t))
      have hvalues : (replicate (n + 1) '1' ++ ['2']).mapM flagValue = .ok (replicate (n + 1) 1 ++ [2]) := by
        rw [mapM_append, mapM_flagValue rfl]
        rfl
      rw [hraised, runs_two, ofRuns_block hvalues rfl, length_append, length_replicate, length_singleton, hslots]
      rfl
    · have hlength (a b : Nat) : min (b + 1) t.length - a =
          min (n + 1 + (1 + b) + 1) (n + 1 + (t.length + 1)) - (n + 1 + (1 + a)) := by omega
      have hfirst : min (n + 1 + 1) (n + 1 + (t.length + 1)) - 0 = n + 1 + 1 := by omega
      rw [mem_cons, hblocks, exists_run_ones (by simp), exists_run_zero, length_append, length_replicate, length_cons,
        hfirst]
      simp only [hlength, Nat.add_assoc]
      simp

/-- The slots of digits go through all lines in order. Of zeros and ones, the zeros stay alone and the blocks are the
maximal runs of ones; if a two is written for each zero behind a one, the blocks are these runs with the line behind. -/
theorem flags_partitioned (s : Text) : ((∀ c ∈ s, (digit? c).isSome) →
      ∃ slots, ofFlags s = .ok slots ∧ slots.flatMap indices = numbers 0 s.length) ∧
    ((∀ c ∈ s, c = '0' ∨ c = '1') →
      (∃ slots, ofFlags s = .ok slots ∧ (∀ i : Int, .line i ∈ slots ↔ ∃ k : Nat, i = k ∧ s[k]? = some '0') ∧
        ∀ is, .block is ∈ slots ↔ ∃ a b, MaximalRun s a b ∧ is = numbers a (b - a)) ∧
      ∃ slots, ofFlags (replace "10" "12" s) = .ok slots ∧
        ∀ is, .block is ∈ slots ↔ ∃ a b, MaximalRun s a b ∧ is = numbers a (min (b + 1) s.length - a)) := by
  refine ⟨fun h => ⟨_, ofFlags_eq h, ?_⟩, fun h => ?_⟩
  · simp only [flatMap_map, indices_ofFlagged]
    rw [flatMap_def, ← map_flatten, flatten_grouped, map_snd_zip_numbers]
  · simpa [ofFlags] using And.intro (slots_of_flags (peeled h) 0) (slots_of_raised (peeled h) 0)

theorem nine_lines_partitioned :
    (∀ c ∈ "001110101".toList, (digit? c).isSome) ∧ (∀ c ∈ "001110101".toList, c = '0' ∨ c = '1') ∧
    ofFlags "001110101" = .ok [.line 0, .line 1, .block [2, 3, 4], .line 5, .block [6], .line 7, .block [8]] ∧
    (∃ a b, MaximalRun "001110101" a b ∧ [2, 3, 4] = numbers a (b - a)) ∧
    ofFlags (replace "10" "12" "001110101") = .ok [.line 0, .line 1, .block [2, 3, 4, 5], .block [6, 7], .block [8]] ∧
    ∃ a b, MaximalRun "001110101" a b ∧ [6, 7] = numbers a (min (b + 1) 9 - a) := by
  have hflags : ∀ c ∈ "001110101".toList, c = '0' ∨ c = '1' := by simp
  have hdigits : ∀ c ∈ "001110101".toList, (digit? c).isSome := fun c hc => by
    rcases hflags c hc with rfl | rfl <;> rfl
  have hslots : ofFlags "001110101" =
      .ok [.line 0, .line 1, .block [2, 3, 4], .line 5, .block [6], .line 7, .block [8]] := by decide
  have hslots' : ofFlags (replace "10" "12" "001110101") =
      .ok [.line 0, .line 1, .block [2, 3, 4, 5], .block [6, 7], .block [8]] := by decide
  obtain ⟨-, hruns⟩ := flags_partitioned "001110101"
  obtain ⟨⟨slots, hok, -, hblocks⟩, slots', hok', hblocks'⟩ := hruns hflags
  obtain rfl := Except.ok.inj (hslots.symm.trans hok)
  obtain rfl := Except.ok.inj (hslots'.symm.trans hok')
  exact ⟨hdigits, hflags, hslots, (hblocks _).mp (by decide), hslots', (hblocks' _).mp (by decide)⟩

end Geoscript.Slot
