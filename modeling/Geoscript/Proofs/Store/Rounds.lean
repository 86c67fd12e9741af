import Geoscript.Proofs.Store.Install
import Geoscript.Proofs.Store.Requirement

/-! Rounds of an expansion. After a round the lines need exactly what the modules need that were put in place
(`Round`); a round that fails has met a line or a module that cannot be expanded. -/

namespace Geoscript.Store
open List Text

variable {t : Tree} {n n' : Nat} {line : Text} {ls ls' : List Text} {m : ModuleName}

/-- The module that a line needs in its place. -/
def needed (line : Text) : Option ModuleName :=
  if requires line then (requirement? line).map (·.2) else none

/-- The modules that lines need in their places. -/
def neededBy (ls : List Text) : List ModuleName :=
  ls.filterMap needed

/-- Every line that requires a module says which one, and for which variable. -/
def wellFormed (ls : List Text) : Bool :=
  ls.all fun line => !requires line || (requirement? line).isSome

namespace Tree

/-- The modules that a module needs in place of its lines. -/
def needs (t : Tree) (m : ModuleName) : List ModuleName :=
  match t.plainText m with
  | .ok text => neededBy (lines text)
  | .error _ => []

/-- Whether a module can be read and its lines are well formed. -/
def expandable (t : Tree) (m : ModuleName) : Bool :=
  match t.plainText m with
  | .ok text => wellFormed (lines text)
  | .error _ => false

/-- All lines of the files that require a module are tidy. -/
def Tidy (t : Tree) : Prop :=
  ∀ f ∈ t.files, ∀ line ∈ lines (comment.replaceAll [] (readLineEnds f.2)), requires line → tidy line

instance (t : Tree) : Decidable t.Tidy :=
  inferInstanceAs (Decidable (∀ f ∈ t.files, _))

end Tree

/-! ### One round -/

def TidyLines (ls : List Text) : Prop :=
  ∀ line ∈ ls, requires line → '\n' ∉ line ∧ tidy line

theorem plainText_ok {text : Text} (h : t.plainText m = .ok text) :
    ∃ f ∈ t.files, text = comment.replaceAll [] (readLineEnds f.2) := by
  obtain ⟨text, htext, rfl⟩ := ok_of_map h
  obtain ⟨-, f, hf, rfl⟩ := moduleText_ok htext
  exact ⟨f, hf, rfl⟩

theorem Tree.Tidy.lines (ht : t.Tidy) {text : Text} (h : t.plainText m = .ok text) : TidyLines (Text.lines text) := by
  obtain ⟨f, hf, rfl⟩ := plainText_ok h
  exact fun line hline hrequires => ⟨not_mem_of_mem_fields hline, ht f hf line hline hrequires⟩

/-- What a round makes of lines: the modules needed are those that the modules needed before need in turn. -/
structure Round (t : Tree) (ls ls' : List Text) : Prop where
  tidy : TidyLines ls'
  needed : neededBy ls' = (neededBy ls).flatMap t.needs
  formed : wellFormed ls' = (neededBy ls).all t.expandable

theorem Round.nil : Round t [] [] :=
  ⟨fun _ h => (nomatch h), rfl, rfl⟩

theorem neededBy_append (ls ks : List Text) : neededBy (ls ++ ks) = neededBy ls ++ neededBy ks :=
  filterMap_append

theorem wellFormed_append (ls ks : List Text) : wellFormed (ls ++ ks) = (wellFormed ls && wellFormed ks) :=
  all_append

theorem Round.append {ks ks' : List Text} (h : Round t ls ls') (h' : Round t ks ks') :
    Round t (ls ++ ks) (ls' ++ ks') where
  tidy line hline := (mem_append.mp hline).elim (h.tidy line) (h'.tidy line)
  needed := by rw [neededBy_append, neededBy_append, flatMap_append, h.needed, h'.needed]
  formed := by rw [wellFormed_append, neededBy_append, all_append, h.formed, h'.formed]

theorem neededBy_of_not_requires (h : requires line = false) : neededBy [line] = [] ∧ wellFormed [line] := by
  simp [neededBy, needed, wellFormed, h]

theorem neededBy_of_requirement? {v : Text} (h : requires line) (hm : requirement? line = some (v, m)) :
    neededBy [line] = [m] := by
  simp [neededBy, needed, h, hm]

theorem Round.keep (h : requires line = false) : Round t [line] [line] where
  tidy l hl hl' := by
    rw [mem_singleton.mp hl, h] at hl'
    cases hl'
  needed := by
    rw [(neededBy_of_not_requires h).1]
    rfl
  formed := by
    rw [(neededBy_of_not_requires h).1, (neededBy_of_not_requires h).2]
    rfl

theorem TidyLines.rename (n : Nat) (h : TidyLines ls) : TidyLines (ls.map (rename n)) := by
  intro line hline hrequires
  obtain ⟨old, hold, rfl⟩ := mem_map.mp hline
  rw [requires_rename] at hrequires
  obtain ⟨hnewline, htidy⟩ := h old hold hrequires
  exact ⟨not_mem_newline_rename n hnewline, tidy_rename n hnewline htidy⟩

theorem neededBy_rename (n : Nat) (h : TidyLines ls) :
    neededBy (ls.map (rename n)) = neededBy ls ∧ wellFormed (ls.map (rename n)) = wellFormed ls := by
  have hline : ∀ line ∈ ls, needed (Store.rename n line) = needed line ∧
      (!requires (Store.rename n line) || (requirement? (Store.rename n line)).isSome) =
        (!requires line || (requirement? line).isSome) := by
    intro line hline
    rw [needed, needed, requires_rename]
    cases hrequires : requires line with
    | false => exact ⟨rfl, rfl⟩
    | true =>
      obtain ⟨hnewline, htidy⟩ := h line hline hrequires
      rw [requirement?_rename n hnewline htidy]
      cases requirement? line <;> exact ⟨rfl, rfl⟩
  constructor
  · rw [neededBy, filterMap_map]
    exact filterMap_congr fun line hmem => (hline line hmem).1
  · rw [wellFormed, wellFormed, all_map, Bool.eq_iff_iff, all_eq_true, all_eq_true]
    exact forall₂_congr fun line hmem => by rw [Function.comp, (hline line hmem).2]

/-- A line that requires a module becomes the lines of the module, with a new name for its exports, between
two lines that require nothing. -/
theorem requirement_of_expandLine {new : List Text} (h : expandLine t n line = .ok new) :
    ∃ v m text, requirement? line = some (v, m) ∧ t.plainText m = .ok text ∧
      new = [openingLine n] ++ ((lines text).map (rename n) ++ [closingLine v n]) := by
  rw [expandLine_eq] at h
  cases hr : requirement? line with
  | none =>
    rw [hr] at h
    cases h
  | some r =>
    rw [hr] at h
    obtain ⟨text, htext, rfl⟩ := ok_of_map h
    exact ⟨r.1, r.2, text, rfl, htext, by simp⟩

theorem expandLine_ok (ht : t.Tidy) {new : List Text} (hrequires : requires line) (hline : '\n' ∉ line)
    (htidy : tidy line) (h : expandLine t n line = .ok new) :
    wellFormed [line] ∧ Round t [line] new := by
  obtain ⟨v, m, text, hr, htext, rfl⟩ := requirement_of_expandLine h
  have hopening := not_requires_openingLine n
  have hclosing := not_requires_closingLine (variable_of_tidy hline htidy hr) n
  obtain ⟨hneeded, hformed⟩ := neededBy_rename n (ht.lines htext)
  refine ⟨by simp [wellFormed, hr], fun l hl hl' => ?_, ?_, ?_⟩
  · rw [mem_append, mem_append, mem_singleton, mem_singleton] at hl
    rcases hl with rfl | hl | rfl
    · exact absurd (hopening.symm.trans hl') Bool.false_ne_true
    · exact (ht.lines htext).rename n l hl hl'
    · exact absurd (hclosing.symm.trans hl') Bool.false_ne_true
  · rw [neededBy_append, neededBy_append, (neededBy_of_not_requires hopening).1,
      (neededBy_of_not_requires hclosing).1, hneeded, neededBy_of_requirement? hrequires hr]
    simp [Tree.needs, htext]
  · rw [wellFormed_append, wellFormed_append, (neededBy_of_not_requires hopening).2,
      (neededBy_of_not_requires hclosing).2, hformed, neededBy_of_requirement? hrequires hr]
    simp [Tree.expandable, htext]

theorem expandOnce_cons (t : Tree) (n : Nat) (line : Text) (ls : List Text) : expandOnce t n (line :: ls) =
      if requires line then
        (expandLine t n line).bind fun new => (expandOnce t (n + 1) ls).map fun r => (r.1, new ++ r.2)
      else (expandOnce t n ls).map fun r => (r.1, line :: r.2) := by
  rw [expandOnce]
  split
  · cases expandLine t n line with
    | error e => rfl
    | ok new => cases expandOnce t (n + 1) ls <;> rfl
  · cases expandOnce t n ls <;> rfl

theorem expandOnce_cons_ok (h : expandOnce t n (line :: ls) = .ok (n', ls')) :
    (requires line ∧ ∃ new rest, expandLine t n line = .ok new ∧ expandOnce t (n + 1) ls = .ok (n', rest) ∧
      ls' = new ++ rest) ∨
    (requires line = false ∧ ∃ rest, expandOnce t n ls = .ok (n', rest) ∧ ls' = line :: rest) := by
  rw [expandOnce_cons] at h
  split at h
  · next hrequires =>
    obtain ⟨new, hnew, h⟩ := ok_of_bind h
    obtain ⟨r, hrest, hr⟩ := ok_of_map h
    obtain ⟨rfl, rfl⟩ := Prod.mk.inj hr
    exact .inl ⟨hrequires, new, r.2, hnew, hrest, rfl⟩
  · next hrequires =>
    obtain ⟨r, hrest, hr⟩ := ok_of_map h
    obtain ⟨rfl, rfl⟩ := Prod.mk.inj hr
    exact .inr ⟨by simpa using hrequires, r.2, hrest, rfl⟩

theorem expandOnce_ok (ht : t.Tidy) (hls : TidyLines ls) (h : expandOnce t n ls = .ok (n', ls')) :
    wellFormed ls ∧ Round t ls ls' := by
  induction ls generalizing n n' ls' with
  | nil =>
    cases h
    exact ⟨rfl, .nil⟩
  | cons line ls ih =>
    obtain ⟨hline, hls⟩ := forall_mem_cons.mp hls
    rw [← singleton_append, wellFormed_append]
    obtain ⟨hrequires, new, rest, hnew, hrest, rfl⟩ | ⟨hrequires, rest, hrest, rfl⟩ := expandOnce_cons_ok h
    · obtain ⟨hnewline, htidy⟩ := hline hrequires
      obtain ⟨hfirst, hround⟩ := expandLine_ok ht hrequires hnewline htidy hnew
      obtain ⟨hformed, hround'⟩ := ih hls hrest
      exact ⟨by rw [hfirst, hformed, Bool.and_true], hround.append hround'⟩
    · obtain ⟨hformed, hround⟩ := ih hls hrest
      exact ⟨by rw [(neededBy_of_not_requires hrequires).2, hformed, Bool.and_true],
        (Round.keep hrequires).append hround⟩

/-- Lines in which something cannot be expanded: a line, or a module that a line needs. -/
def Blocked (t : Tree) (ls : List Text) : Prop :=
  wellFormed ls = false ∨ ∃ m ∈ neededBy ls, t.expandable m = false

theorem Blocked.append_left (h : Blocked t ls) (ks : List Text) : Blocked t (ls ++ ks) := by
  rw [Blocked, wellFormed_append, neededBy_append]
  rcases h with hformed | ⟨m, hm, hbad⟩
  · exact .inl (by rw [hformed, Bool.false_and])
  · exact .inr ⟨m, mem_append_left _ hm, hbad⟩

theorem Blocked.append_right (ls : List Text) {ks : List Text} (h : Blocked t ks) : Blocked t (ls ++ ks) := by
  rw [Blocked, wellFormed_append, neededBy_append]
  rcases h with hformed | ⟨m, hm, hbad⟩
  · exact .inl (by rw [hformed, Bool.and_false])
  · exact .inr ⟨m, mem_append_right _ hm, hbad⟩

theorem expandLine_error {e : Problem} (hrequires : requires line) (h : expandLine t n line = .error e) :
    Blocked t [line] := by
  rw [expandLine_eq] at h
  cases hr : requirement? line with
  | none => exact .inl (by simp [wellFormed, hrequires, hr])
  | some r =>
    obtain ⟨v, m⟩ := r
    refine .inr ⟨m, by simp [neededBy_of_requirement? hrequires hr], ?_⟩
    rw [hr] at h
    simp only at h
    cases htext : t.plainText m with
    | error e => simp [Tree.expandable, htext]
    | ok text =>
      rw [htext] at h
      cases h

theorem expandOnce_error {e : Problem} (h : expandOnce t n ls = .error e) : Blocked t ls := by
  induction ls generalizing n e with
  | nil => cases h
  | cons line ls ih =>
    rw [expandOnce_cons] at h
    rw [← singleton_append]
    split at h
    · next hrequires =>
      cases hnew : expandLine t n line with
      | error e => exact (expandLine_error hrequires hnew).append_left ls
      | ok new =>
        cases hrest : expandOnce t (n + 1) ls with
        | error e => exact (ih hrest).append_right [line]
        | ok r =>
          rw [hnew, hrest] at h
          cases h
    · cases hrest : expandOnce t n ls with
      | error e => exact (ih hrest).append_right [line]
      | ok r =>
        rw [hrest] at h
        cases h

end Geoscript.Store
