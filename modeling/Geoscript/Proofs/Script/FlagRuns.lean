import Geoscript.Proofs.Script.LineRuns

/-! The slots of flags are groups of consecutive lines as well: a set flag belongs to the group of the one behind it if
they stand in one run (`marks`, `ofFlags_eq`). -/

namespace Geoscript.Slot
open List
variable {flags : Text} {c p : Char}

/-- Whether each flagged line belongs to the same run as the one behind it. -/
def marks : Text → List Bool
  | p :: c :: rest => (p == '1' && joins p c rest.head?) :: marks (c :: rest)
  | _ => []

theorem marks_cons (p c : Char) (rest : Text) :
    marks (p :: c :: rest) = (p == '1' && joins p c rest.head?) :: marks (c :: rest) :=
  rfl

theorem eq_one_of_joins {next : Option Char} (h : joins p c next) (hp : p ≠ '0') : p = '1' := by
  unfold joins at h
  split at h
  · exact absurd (beq_iff_eq.mp h) hp
  · exact beq_iff_eq.mp h

/-- A flag that is neither zero nor one is the last one of its run. -/
theorem runs_of_ne (hzero : c ≠ '0') (hone : c ≠ '1') (rest : Text) : ∃ gs, runs (c :: rest) = [c] :: gs := by
  cases rest with
  | nil => exact ⟨[], rfl⟩
  | cons d rest =>
    obtain ⟨g, gs, hruns, -⟩ := runs_cons d rest
    have hjoins : joins c d rest.head? = false :=
      Bool.eq_false_iff.mpr fun h => hone (eq_one_of_joins h hzero)
    rw [runs, hruns, hjoins]
    exact ⟨_, rfl⟩

theorem flatten_runs (flags : Text) : (runs flags).flatten = flags := by
  fun_induction runs flags with
  | case1 => rfl
  | case2 c => rfl
  | case3 p c rest hnil ih => simp [hnil] at ih
  | case4 p c rest g gs hruns hjoins ih => simpa [hruns] using ih
  | case5 p c rest g gs hruns hjoins ih => simpa [hruns] using ih

/-- The slot of a group of lines with their flags: a line whose flag is a zero stays alone. -/
def ofFlagged : List (Char × Int) → Slot
  | [(c, i)] => if Text.digit? c = some 0 then .line i else .block [i]
  | g => .block (g.map Prod.snd)

theorem indices_ofFlagged (g : List (Char × Int)) : (ofFlagged g).indices = g.map Prod.snd := by
  unfold ofFlagged
  split
  · split <;> rfl
  · rfl

theorem ofFlagged_cons (x : Char × Int) {g : List (Char × Int)} (hg : g ≠ []) :
    ofFlagged (x :: g) = .block (x.2 :: (ofFlagged g).indices) := by
  obtain ⟨y, g, rfl⟩ := exists_cons_of_ne_nil hg
  rw [indices_ofFlagged]
  rfl

theorem map_snd_zip_numbers (flags : Text) (start : Nat) :
    (flags.zip (numbers start flags.length)).map Prod.snd = numbers start flags.length :=
  map_snd_zip (by simp [numbers])

theorem ofRun_eq {run : Text} (h : ∀ c ∈ run, (Text.digit? c).isSome) (start : Nat) :
    ofRun start run = .ok (if run.all (Text.digit? · == some 0) then (numbers start run.length).map .line
      else [.block (numbers start run.length)]) := by
  have hvalues : ∃ values, run.mapM flagValue = .ok values ∧
      values.all (· == 0) = run.all (Text.digit? · == some 0) := by
    induction run with
    | nil => exact ⟨[], rfl, rfl⟩
    | cons c run ih =>
      rw [forall_mem_cons] at h
      obtain ⟨values, hvalues, hall⟩ := ih h.2
      obtain ⟨d, hd⟩ := Option.isSome_iff_exists.mp h.1
      refine ⟨d :: values, ?_, by simp [hall, hd]⟩
      rw [mapM_cons, hvalues, flagValue, hd]
      rfl
  obtain ⟨values, hvalues, hall⟩ := hvalues
  rw [ofRun, hvalues, ← hall]
  rfl

theorem ofRuns_cons {run : Text} {rs : List Text} {start : Nat} {slots others : List Slot}
    (hrun : ofRun start run = .ok slots) (hrest : ofRuns (start + run.length) rs = .ok others) :
    ofRuns start (run :: rs) = .ok (slots ++ others) := by
  rw [ofRuns, hrun, hrest]
  rfl

theorem ofRun_singleton (h : (Text.digit? p).isSome) (start : Nat) :
    ofRun start [p] = .ok [ofFlagged [(p, (start : Int))]] := by
  rw [ofRun_eq (forall_mem_singleton.mpr h), ofFlagged]
  by_cases hp : Text.digit? p = some 0 <;> simp [numbers, hp]

/-- Behind a one, a run of nothing but zeros is a single zero. -/
theorem eq_nil_of_joins {g rest : Text} {gs : List Text} (hruns : runs (c :: rest) = (c :: g) :: gs)
    (hzeros : c = '0' → (∀ d ∈ g, d = '0') ∧ (rest.head?.all (fun n => n == '0' || n == '1') = false → g = []))
    (hjoins : joins '1' c rest.head?) (hall : (c :: g).all (Text.digit? · == some 0)) : g = [] := by
  by_cases hc : c = '0'
  · subst hc
    refine (hzeros rfl).2 (Bool.eq_false_iff.mpr fun hnext => ?_)
    simp [joins, hnext] at hjoins
  · have hone : c ≠ '1' := by
      rintro rfl
      cases (all_eq_true.mp hall) '1' mem_cons_self
    obtain ⟨gs', hsingle⟩ := runs_of_ne hc hone rest
    rw [hruns] at hsingle
    exact (cons.inj (cons.inj hsingle).1).2

theorem ofRuns_runs (h : ∀ c ∈ flags, (Text.digit? c).isSome) (start : Nat) : ofRuns start (runs flags) =
    .ok ((grouped (marks flags) (flags.zip (numbers start flags.length))).map ofFlagged) := by
  induction flags generalizing start with
  | nil => rfl
  | cons p flags ih =>
    rw [forall_mem_cons] at h
    have hrest := ih h.2 (start + 1)
    have hp := ofRun_singleton h.1 start
    rw [length_cons, numbers_succ, zip_cons_cons]
    cases flags with
    | nil => exact ofRuns_cons hp hrest
    | cons c rest =>
      obtain ⟨g, gs, hruns, hzeros⟩ := runs_cons c rest
      rw [runs, hruns, marks]
      rw [hruns] at hrest
      cases hjoins : joins p c rest.head? with
      | false =>
        rw [Bool.and_false]
        exact ofRuns_cons hp hrest
      | true =>
        by_cases hzero : p = '0'
        · -- Zeros stay alone, although they make one run.
          subst hzero
          have hrun := ofRuns_runs_zero start (c :: rest)
          rw [runs, hruns, hjoins, hrest] at hrun
          exact hrun
        · -- The run behind a one is a single slot, whose lines get one more.
          obtain rfl := eq_one_of_joins hjoins hzero
          have hdigits : ∀ d ∈ c :: g, (Text.digit? d).isSome := fun d hd => by
            refine h.2 d ?_
            rw [← flatten_runs (c :: rest), hruns]
            exact mem_append_left _ hd
          obtain ⟨s, hs, hindices⟩ : ∃ s, ofRun (start + 1) (c :: g) = .ok [s] ∧
              s.indices = numbers (start + 1) (g.length + 1) := by
            rw [ofRun_eq hdigits]
            split
            · next hall =>
              obtain rfl := eq_nil_of_joins hruns hzeros hjoins hall
              exact ⟨_, rfl, rfl⟩
            · exact ⟨_, rfl, rfl⟩
          obtain ⟨others, hothers⟩ : ∃ others, ofRuns (start + 1 + (c :: g).length) gs = .ok others := by
            cases hcase : ofRuns (start + 1 + (c :: g).length) gs with
            | error e =>
              rw [ofRuns, hs, hcase] at hrest
              cases hrest
            | ok others => exact ⟨others, rfl⟩
          have hsame := (ofRuns_cons hs hothers).symm.trans hrest
          rw [length_cons, numbers_succ, zip_cons_cons] at hsame ⊢
          obtain ⟨g', gs', hgroups⟩ := grouped_cons (marks (c :: rest)) (c, ((start + 1 : Nat) : Int))
            (rest.zip (numbers (start + 1 + 1) rest.length))
          rw [hgroups] at hsame
          obtain ⟨rfl, rfl⟩ := cons.inj (Except.ok.inj hsame)
          have hrun : ofRun start ('1' :: c :: g) = .ok [.block (numbers start (g.length + 2))] :=
            ofRun_eq (forall_mem_cons.mpr ⟨rfl, hdigits⟩) start
          rw [show ('1' == '1' && true) from rfl, grouped_true, hgroups]
          rw [Nat.add_assoc, Nat.add_comm 1] at hothers
          refine (ofRuns_cons hrun hothers).trans ?_
          rw [numbers_succ, ← hindices, attach, map_cons, ofFlagged_cons _ (cons_ne_nil _ _)]
          rfl

theorem ofFlags_eq (h : ∀ c ∈ flags, (Text.digit? c).isSome) :
    ofFlags flags = .ok ((grouped (marks flags) (flags.zip (numbers 0 flags.length))).map ofFlagged) :=
  ofRuns_runs h 0

end Geoscript.Slot
