import Geoscript.Proofs.Store.Bundle
import Geoscript.Proofs.Store.Calls
import Geoscript.Proofs.Store.Complete

/-! A bundle finds what has been installed, where installing, which reads the calls of a whole text, and bundling,
which reads the first call of each line without comments, read the same (`Tree.Legible`). -/

namespace Geoscript.Store
open List Text Work Relation

variable {update quiet : Bool} {t : Tree} {n : Nat} {line text : Text} {ls : List Text} {m m' x : ModuleName}
  {s s' : State} {order : List ModuleName}

/-- From a module on, bundling reads what installing reads: no comment starts or ends in a call, no variable of a
requiring line has a call in it, and the modules that come to be renamed require none that is named after the
exports. -/
structure Tree.Legible (t : Tree) (x : ModuleName) : Prop where
  comments : ∀ m text, ReflTransGen t.Needs x m → t.moduleText m = .ok text → CommentsApart text
  own : ∀ text, t.plainText x = .ok text → ∀ line ∈ lines text, requires line →
    ∀ r, requirement? line = some r → '(' ∉ r.1
  others : ∀ m text, TransGen t.Needs x m → t.plainText m = .ok text → ∀ line ∈ lines text, requires line → tidy line

/-! ### Modules that are needed -/

theorem plainText_eq_ok_iff : t.plainText m = .ok text ↔
    ∃ raw, t.moduleText m = .ok raw ∧ text = comment.replaceAll [] raw := by
  unfold Tree.plainText
  cases t.moduleText m with
  | error e => simp [Except.map]
  | ok raw => simp [Except.map, eq_comm]

theorem needs_of_requirement? {r : Text × ModuleName} (htext : t.plainText m = .ok text) (hline : line ∈ lines text)
    (hrequires : requires line) (hr : requirement? line = some r) : t.Needs m r.2 := by
  rw [Tree.Needs, Tree.needs, htext]
  exact mem_filterMap.mpr ⟨line, hline, by rw [needed, if_pos hrequires, hr]; rfl⟩

theorem requirement?_of_needs (h : t.Needs m m') : ∃ text line r, t.plainText m = .ok text ∧ line ∈ lines text ∧
    requires line ∧ requirement? line = some r ∧ r.2 = m' := by
  unfold Tree.Needs Tree.needs at h
  split at h
  · next text htext =>
    obtain ⟨line, hline, hneeded⟩ := mem_filterMap.mp h
    unfold needed at hneeded
    split at hneeded
    · next hrequires =>
      obtain ⟨r, hr, hm⟩ := Option.map_eq_some_iff.mp hneeded
      exact ⟨text, line, r, htext, hline, hrequires, hr, hm⟩
    · cases hneeded
  · cases h

theorem mem_requiredBy_of_needs (htext : t.moduleText m = .ok text) (hcomments : CommentsApart text)
    (h : t.Needs m m') : m' ∈ requiredBy text := by
  obtain ⟨plain, line, r, hplain, hline, -, hr, rfl⟩ := requirement?_of_needs h
  obtain ⟨raw, hraw, rfl⟩ := plainText_eq_ok_iff.mp hplain
  obtain rfl := Except.ok.inj (htext.symm.trans hraw)
  exact mem_requiredBy_of_requirement? hcomments hline hr

theorem Tree.Legible.mem_order (hl : t.Legible x) (hx : x ∈ order) (horder : ∀ m ∈ order, Covered order t m)
    (h : ReflTransGen t.Needs x m) : m ∈ order := by
  induction h with
  | refl => exact hx
  | @tail k m hreach hneeds ih =>
    obtain ⟨text, htext, hcovered⟩ := horder k ih
    exact hcovered m (mem_requiredBy_of_needs htext (hl.comments k text hreach htext) hneeds)

theorem Tree.Legible.plainText (hl : t.Legible x) (hx : x ∈ order) (horder : ∀ m ∈ order, Covered order t m)
    (h : ReflTransGen t.Needs x m) : ∃ text, t.plainText m = .ok text := by
  obtain ⟨text, htext, -⟩ := horder m (hl.mem_order hx horder h)
  exact ⟨_, plainText_eq_ok_iff.mpr ⟨text, htext, rfl⟩⟩

theorem Tree.legible_of_list (names : List ModuleName) (hx : x ∈ names)
    (hnames : ∀ m ∈ names, ∀ m' ∈ t.needs m, m' ∈ names)
    (hcomments : ∀ m ∈ names, ∀ text ∈ (t.moduleText m).toOption, CommentsApart text)
    (htidy : ∀ m ∈ names, ∀ text ∈ (t.plainText m).toOption, ∀ line ∈ lines text,
      requires line → tidy line) : t.Legible x where
  comments m text hm htext := hcomments m (mem_of_reached hnames hx hm) text (by rw [htext]; rfl)
  own text htext line hline hrequires r hr :=
    variable_of_tidy (not_mem_of_mem_fields hline)
      (htidy x hx text (by rw [htext]; rfl) line hline hrequires) hr
  others m text hm htext :=
    htidy m (mem_of_reached hnames hx hm.to_reflTransGen) text (by rw [htext]; rfl)

/-! ### Lines on the way -/

def Leading (t : Tree) (x : ModuleName) (ls : List Text) : Prop :=
  ∀ line ∈ ls, requires line → ∀ r, requirement? line = some r → '(' ∉ r.1 ∧ TransGen t.Needs x r.2

theorem Leading.own (hl : t.Legible x) (htext : t.plainText x = .ok text) : Leading t x (lines text) :=
  fun line hline hrequires r hr => ⟨hl.own text htext line hline hrequires r hr,
    .single (needs_of_requirement? htext hline hrequires hr)⟩

theorem Leading.placed (hl : t.Legible x) (hm : TransGen t.Needs x m) (htext : t.plainText m = .ok text) (n : Nat) :
    Leading t x ((lines text).map (rename n)) := by
  intro new hnew hrequires r hr
  obtain ⟨line, hline, rfl⟩ := mem_map.mp hnew
  rw [requires_rename] at hrequires
  have hnewline : '\n' ∉ line := not_mem_of_mem_fields hline
  have htidy := hl.others m text hm htext line hline hrequires
  refine ⟨variable_of_tidy (not_mem_newline_rename n hnewline) (tidy_rename n hnewline htidy) hr, ?_⟩
  rw [requirement?_rename n hnewline htidy] at hr
  obtain ⟨old, hold, rfl⟩ := Option.map_eq_some_iff.mp hr
  show TransGen t.Needs x old.2
  exact hm.tail (needs_of_requirement? htext hline hrequires hold)

/-- Every call leads to a module that can be read, so a line fails only if it declares no variable. -/
theorem expandLine_of_leading (hl : t.Legible x) (hread : ∀ m, TransGen t.Needs x m → ∃ text, t.plainText m = .ok text)
    (hrequires : requires line) (h : Leading t x [line]) (n : Nat) :
    expandLine t n line = .error .badRequire ∨ ∃ new, expandLine t n line = .ok new ∧ Leading t x new := by
  rw [expandLine_eq]
  cases hr : requirement? line with
  | none => exact .inl rfl
  | some r =>
    obtain ⟨hvariable, hm⟩ := h line mem_cons_self hrequires r hr
    obtain ⟨text, htext⟩ := hread r.2 hm
    refine .inr ⟨_, by simp only [htext]; rfl, fun new hnew hnew' => ?_⟩
    rw [mem_append, mem_append, mem_singleton, mem_singleton] at hnew
    rcases hnew with (rfl | hnew) | rfl
    · exact absurd ((not_requires_openingLine n).symm.trans hnew') Bool.false_ne_true
    · exact Leading.placed hl hm htext n new hnew hnew'
    · exact absurd ((not_requires_closingLine hvariable n).symm.trans hnew') Bool.false_ne_true

theorem expandOnce_of_leading (hl : t.Legible x) (hread : ∀ m, TransGen t.Needs x m → ∃ text, t.plainText m = .ok text)
    (h : Leading t x ls) (n : Nat) :
    expandOnce t n ls = .error .badRequire ∨ ∃ n' ls', expandOnce t n ls = .ok (n', ls') ∧ Leading t x ls' := by
  induction ls generalizing n with
  | nil => exact .inr ⟨n, [], rfl, h⟩
  | cons line ls ih =>
    obtain ⟨hline, hls⟩ := forall_mem_cons.mp h
    rw [expandOnce_cons]
    cases hrequires : requires line with
    | false =>
      rw [if_neg Bool.false_ne_true]
      rcases ih hls n with hrest | ⟨n', ls', hrest, hls'⟩
      · exact .inl (by rw [hrest]; rfl)
      · refine .inr ⟨n', line :: ls', by rw [hrest]; rfl, forall_mem_cons.mpr ⟨hline, hls'⟩⟩
    | true =>
      rw [if_pos rfl]
      rcases expandLine_of_leading hl hread hrequires (forall_mem_singleton.mpr hline) n with
        hnew | ⟨new, hnew, hnews⟩
      · exact .inl (by rw [hnew]; rfl)
      · rcases ih hls (n + 1) with hrest | ⟨n', ls', hrest, hls'⟩
        · exact .inl (by rw [hnew, hrest]; rfl)
        · refine .inr ⟨n', new ++ ls', by rw [hnew, hrest]; rfl, fun new' hnew' => ?_⟩
          exact (mem_append.mp hnew').elim (hnews new') (hls' new')

theorem expand_of_leading (hl : t.Legible x) (hread : ∀ m, TransGen t.Needs x m → ∃ text, t.plainText m = .ok text)
    {rounds : Nat} {e : Problem} (h : Leading t x ls) (he : expand t rounds n ls = some (.error e)) :
    e = .badRequire := by
  induction rounds generalizing n ls with
  | zero =>
    rw [expand] at he
    split at he <;> cases he
  | succ rounds ih =>
    rw [expand] at he
    split at he
    · rcases expandOnce_of_leading hl hread h n with hround | ⟨n', ls', hround, hls'⟩
      · rw [hround] at he
        cases he
        rfl
      · rw [hround] at he
        exact ih hls' he
    · cases he

/-- A bundle of a module that has just been installed fails, if at all, at a line that declares no variable, and
never at a module that is not installed. -/
theorem bundle_finds_installed (h : (install update quiet x).run s = (.ok order, s')) (hl : s'.tree.Legible x)
    (rounds : Nat) :
    (∀ e, s'.tree.bundle rounds x = some (.error e) → e = .badRequire) ∧
    ∀ m, s'.tree.bundle rounds x ≠ some (.error (.notInstalled m)) := by
  obtain ⟨hx, horder⟩ := install_complete h
  have hread : ∀ m, TransGen s'.tree.Needs x m → ∃ text, s'.tree.plainText m = .ok text := fun m hm =>
    hl.plainText hx horder hm.to_reflTransGen
  have hbad : ∀ e, s'.tree.bundle rounds x = some (.error e) → e = .badRequire := by
    intro e he
    obtain ⟨text, htext⟩ := hl.plainText hx horder .refl
    unfold Tree.bundle at he
    rw [htext] at he
    obtain ⟨r, hr, hmap⟩ := Option.map_eq_some_iff.mp he
    cases r with
    | error e' =>
      cases hmap
      exact expand_of_leading hl hread (.own hl htext) hr
    | ok r => cases hmap
  exact ⟨hbad, fun m hm => nomatch hbad _ hm⟩

/-- A module with a comment, one that it requires, and one that is still to be downloaded for that. -/
def stock : State :=
  .start [("a.js", "/* b */ var b = require('b')"), ("b.js", "var c = require('c')\nexports.c = c")]
    [("https://storage.googleapis.com/ee-sources/c", "exports.v = 1")]

/-- A required module that requires one in a folder with the name of the exports. -/
def renamedFolder : State :=
  .start [("a.js", "var b = require('b')"), ("b.js", "var c = require('exports/c')\nexports.c = c"),
    ("exports/c.js", "exports.v = 1")] []

/-- A call that is only one without the comment in it. -/
def cutCall : State :=
  .start [("a.js", "var b = re/* */quire('b')")] []

theorem stock_bundled_others_not : (∃ s', (install false true "a").run stock = (.ok ["a", "b", "c"], s') ∧
      s'.tree.Legible "a" ∧ ∀ rounds m, s'.tree.bundle rounds "a" ≠ some (.error (.notInstalled m))) ∧
    (((install false true "a").run renamedFolder).1.toOption.isSome ∧
      ((install false true "a").run renamedFolder).2.tree.bundle 2 "a" =
        some (.error (.notInstalled "eeExtraExports0/c"))) ∧
    ((install false true "a").run cutCall).1.toOption.isSome ∧
      ((install false true "a").run cutCall).2.tree.bundle 1 "a" = some (.error (.notInstalled "b")) := by
  refine ⟨?_, by decide +kernel, by decide +kernel⟩
  have horder : ((install false true "a").run stock).1.toOption =
      some ["a".toList, "b".toList, "c".toList] := by decide +kernel
  have hl : ((install false true "a").run stock).2.tree.Legible "a" := by
    refine Tree.legible_of_list ["a", "b", "c"] mem_cons_self ?_ ?_ ?_
    all_goals decide +kernel
  rcases hrun : (install false true "a").run stock with ⟨r, s'⟩
  rw [hrun] at horder hl
  cases r with
  | error e => cases horder
  | ok order =>
    obtain rfl := Option.some.inj horder
    exact ⟨s', rfl, hl, fun rounds => (bundle_finds_installed hrun hl rounds).2⟩

end Geoscript.Store
