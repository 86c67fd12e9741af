import Geoscript.Proofs.Pattern.Rebuild
import Geoscript.Proofs.Store.Bundle
import Mathlib.Data.List.Perm.Basic
import Mathlib.Order.Nat

/-! Modules in the places of the lines that require them. `Inlined` describes module by module what the rounds of a
bundle make, with numbers counted through (`inlined_of_expand`). A bundle ends where a rank goes down along what
modules need (`bundle_inlines`); if every call stands in a declared variable it does not (`bundle_never_ends`). -/

namespace Geoscript.Store
open List Text
open scoped List

variable {t : Tree} {n n' k : Nat} {line v text : Text} {ls ls' out : List Text} {m x : ModuleName}
  {numbers : List Nat}

/-- Lines, the numbers of the modules put in place of the requiring ones and of theirs, and what comes of it. -/
inductive Inlined (t : Tree) : List Text → List Nat → List Text → Prop
  | nil : Inlined t [] [] []
  | keep {line : Text} {ls out : List Text} {numbers : List Nat} :
      requires line = false → Inlined t ls numbers out → Inlined t (line :: ls) numbers (line :: out)
  | place {line v text : Text} {m : ModuleName} {ls body out : List Text} {n : Nat} {inner numbers : List Nat} :
      requires line → requirement? line = some (v, m) → t.plainText m = .ok text →
      Inlined t ((lines text).map (rename n)) inner body → Inlined t ls numbers out →
      Inlined t (line :: ls) (n :: (inner ++ numbers)) (openingLine n :: (body ++ closingLine v n :: out))

namespace Inlined

theorem of_still (h : ls.any requires = false) : Inlined t ls [] ls := by
  induction ls with
  | nil => exact .nil
  | cons line ls ih =>
    rw [any_cons, Bool.or_eq_false_iff] at h
    exact .keep h.1 (ih h.2)

theorem of_cons_keep (hline : requires line = false) (h : Inlined t (line :: ls) numbers out) :
    ∃ rest, out = line :: rest ∧ Inlined t ls numbers rest := by
  cases h with
  | keep _ h => exact ⟨_, rfl, h⟩
  | place hrequires => exact absurd (hline.symm.trans hrequires) Bool.false_ne_true

theorem of_append (h : Inlined t (ls ++ ls') numbers out) :
    ∃ front back before behind, numbers = front ++ back ∧ out = before ++ behind ∧
      Inlined t ls front before ∧ Inlined t ls' back behind := by
  induction ls generalizing numbers out with
  | nil => exact ⟨[], numbers, [], out, rfl, rfl, .nil, h⟩
  | cons line ls ih =>
    cases h with
    | keep hline h =>
      obtain ⟨front, back, before, behind, rfl, rfl, hfront, hback⟩ := ih h
      exact ⟨front, back, line :: before, behind, rfl, rfl, .keep hline hfront, hback⟩
    | @place _ v text m _ body _ n inner _ hline hr htext hbody h =>
      obtain ⟨front, back, before, behind, rfl, rfl, hfront, hback⟩ := ih h
      refine ⟨_, back, _, behind, ?_, ?_, .place hline hr htext hbody hfront, hback⟩
      · rw [cons_append, append_assoc]
      · simp

theorem openings (h : Inlined t ls numbers out) : (numbers.map openingLine).Sublist out := by
  induction h with
  | nil => exact .slnil
  | keep _ _ ih => exact ih.cons _
  | place _ _ _ _ _ ihbody ih =>
    rw [map_cons, map_append]
    exact (ihbody.append (ih.cons _)).cons_cons _

theorem kept (h : Inlined t ls numbers out) : (ls.filter fun line => !requires line).Sublist out := by
  induction h with
  | nil => exact .slnil
  | keep hline _ ih =>
    rw [filter_cons_of_pos (by rw [hline]; rfl)]
    exact ih.cons_cons _
  | place hline _ _ _ _ _ ih =>
    rw [filter_cons_of_neg (by rw [hline]; exact Bool.false_ne_true)]
    exact ((ih.cons _).trans (sublist_append_right _ _)).cons _

end Inlined

/-! ### Rounds -/

/-- What comes of lines after a round comes of the lines before it, with the numbers of the round. -/
theorem inlined_of_expandOnce (hls : TidyLines ls) (h : expandOnce t n ls = .ok (n', ls'))
    (hout : Inlined t ls' numbers out) :
    n ≤ n' ∧ ∃ all, Inlined t ls all out ∧ all.Perm (range' n (n' - n) ++ numbers) := by
  induction ls generalizing n n' ls' numbers out with
  | nil =>
    cases h
    cases hout
    exact ⟨Nat.le_refl n, [], .nil, by simp⟩
  | cons line ls ih =>
    obtain ⟨hline, hls⟩ := forall_mem_cons.mp hls
    obtain ⟨hrequires, new, rest, hnew, hrest, rfl⟩ | ⟨hrequires, rest, hrest, rfl⟩ := expandOnce_cons_ok h
    · obtain ⟨v, m, text, hr, htext, rfl⟩ := requirement_of_expandLine hnew
      obtain ⟨hnewline, htidy⟩ := hline hrequires
      have hclosing := not_requires_closingLine (variable_of_tidy hnewline htidy hr) n
      rw [append_assoc, append_assoc, singleton_append] at hout
      obtain ⟨_, rfl, hinner⟩ := hout.of_cons_keep (not_requires_openingLine n)
      obtain ⟨inner, back, body, _, rfl, rfl, hbody, hback⟩ := hinner.of_append
      obtain ⟨_, rfl, hbehind⟩ := hback.of_cons_keep hclosing
      obtain ⟨hle, all, hall, hperm⟩ := ih hls hrest hbehind
      refine ⟨by omega, _, .place hrequires hr htext hbody hall, ?_⟩
      rw [show n' - n = n' - (n + 1) + 1 by omega, range'_succ, cons_append, perm_cons]
      calc inner ++ all
        _ ~ inner ++ (range' (n + 1) (n' - (n + 1)) ++ back) := hperm.append_left inner
        _ ~ range' (n + 1) (n' - (n + 1)) ++ (inner ++ back) := perm_append_comm_assoc ..
    · obtain ⟨_, rfl, hbehind⟩ := hout.of_cons_keep hrequires
      obtain ⟨hle, all, hall, hperm⟩ := ih hls hrest hbehind
      exact ⟨hle, all, .keep hrequires hall, hperm⟩

theorem inlined_of_expand (ht : t.Tidy) {rounds : Nat} (hls : TidyLines ls)
    (h : expand t rounds n ls = some (.ok (k, out))) :
    out.any requires = false ∧ n ≤ k ∧ ∃ all, Inlined t ls all out ∧ all.Perm (range' n (k - n)) := by
  induction rounds generalizing n ls with
  | zero =>
    rw [expand] at h
    split at h
    · cases h
    · next hstill =>
      cases h
      rw [Bool.not_eq_true] at hstill
      exact ⟨hstill, Nat.le_refl _, [], .of_still hstill, by simp⟩
  | succ rounds ih =>
    rw [expand] at h
    split at h
    · cases hround : expandOnce t n ls with
      | error e =>
        rw [hround] at h
        cases h
      | ok r =>
        rw [hround] at h
        obtain ⟨-, hr⟩ := expandOnce_ok ht hls hround
        obtain ⟨hstill, hle, all, hall, hperm⟩ := ih hr.tidy h
        obtain ⟨hle', all', hall', hperm'⟩ := inlined_of_expandOnce hls hround hall
        refine ⟨hstill, Nat.le_trans hle' hle, all', hall', ?_⟩
        calc all'
          _ ~ range' n (r.1 - n) ++ all := hperm'
          _ ~ range' n (r.1 - n) ++ range' r.1 (k - r.1) := hperm.append_left _
          _ = range' n (k - n) := by
            rw [show k - n = r.1 - n + (k - r.1) by omega, ← range'_append_1, Nat.add_sub_cancel' hle']
    · next hstill =>
      cases h
      rw [Bool.not_eq_true] at hstill
      exact ⟨hstill, Nat.le_refl _, [], .of_still hstill, by simp⟩

/-! ### Quotes -/

theorem over_of_two_groups {whole p q r : Pattern} {depth : Nat} {c : Cursor} {next : Continuation} {e : Ending}
    (hp : p.groupless) (hq : q.groupless)
    (h : Pattern.matcher (Pattern.calls whole depth) .forward (.seq (.group 1 p) (.seq (.group 2 q) r)) c [] next =
      some e) :
    ∃ u₁ c₁ u₂ c₂, c.Over u₁ c₁ ∧ c₁.Over u₂ c₂ ∧
      Pattern.matcher (Pattern.calls whole depth) .forward r c₂ [(2, ⟨c₁, c₂.pos⟩), (1, ⟨c, c₁.pos⟩)] next =
        some e := by
  rw [Pattern.matcher_seq, Pattern.matcher_group] at h
  obtain ⟨u₁, c₁, hu₁, h⟩ := Pattern.over_of_groupless hp h
  rw [Pattern.matcher_seq, Pattern.matcher_group] at h
  obtain ⟨u₂, c₂, hu₂, h⟩ := Pattern.over_of_groupless hq h
  exact ⟨u₁, c₁, u₂, c₂, hu₁, hu₂, h⟩

theorem text_of_two_groups {p q : Pattern} {w : Text} {depth : Nat} {moving : Bool} {found : Match}
    (hp : p.groupless) (hq : q.groupless)
    (h : (Pattern.all [.group 1 p, .group 2 q, .lit w, .lineEnd]).matchAt depth moving found.start = some found) :
    found.text = found.group 1 ++ found.group 2 ++ w := by
  unfold Pattern.matchAt at h
  split at h
  · next e he =>
    obtain ⟨start, stop, captures⟩ := found
    cases h
    obtain ⟨u₁, c₁, u₂, c₂, hu₁, hu₂, he⟩ := over_of_two_groups hp hq he
    obtain ⟨b, ⟨d, ⟨hw, hcaptures⟩, rfl, -⟩, hnext⟩ := Pattern.reads_of_matcher (Pattern.sound_calls _ depth) he
    simp only at hnext
    split at hnext
    · cases hnext
    · cases hnext
      have hfirst : Match.group ⟨start, b.1, b.2⟩ 1 = u₁ := by
        rw [Match.group, hcaptures]
        exact hu₁.upTo
      have hsecond : Match.group ⟨start, b.1, b.2⟩ 2 = u₂ := by
        rw [Match.group, hcaptures]
        exact hu₂.upTo
      rw [Match.text, ((hu₁.trans hu₂).trans hw).upTo, hfirst, hsecond]
  · cases h

def Mended (a b : Char) : Prop :=
  b = a ∨ a = '"' ∧ b = '\''

theorem forall₂_mended_self (w : Text) : Forall₂ Mended w w :=
  forall₂_same.mpr fun _ _ => .inl rfl

theorem forall₂_replace_quotes (w : Text) : Forall₂ Mended w (replace ['"'] ['\''] w) := by
  induction w using replace_induction (cons_ne_nil '"' []) with
  | nil => exact .nil
  | hit w ih =>
    rw [replace_append (cons_ne_nil _ _)]
    exact .cons (.inr ⟨rfl, rfl⟩) ih
  | miss c w hmiss ih =>
    rw [replace_cons (cons_ne_nil _ _) hmiss]
    exact .cons (.inl rfl) ih

theorem forall₂_mendQuotes (w : Text) : Forall₂ Mended w (mendQuotes w) := by
  refine Pattern.forall₂_replaceBy (fun _ => .inl rfl) (fun found depth moving h => ?_) w
  rw [text_of_two_groups (w := "\",") rfl rfl h]
  exact rel_append (rel_append (forall₂_mended_self _) (forall₂_replace_quotes _)) (forall₂_mended_self _)

theorem eq_of_forall₂_mended {o w : Text} (ho : '\'' ∉ o) (h : Forall₂ Mended w o) : w = o := by
  induction h with
  | nil => rfl
  | @cons a b w o hab _ ih =>
    rw [mem_cons, not_or] at ho
    rcases hab with rfl | ⟨-, rfl⟩
    · rw [ih ho.2]
    · exact absurd rfl ho.1

theorem infix_of_infix_mendQuotes {o w : Text} (ho : '\'' ∉ o) (h : o <:+: mendQuotes w) : o <:+: w := by
  obtain ⟨a, b, hab⟩ := h
  have hmended := forall₂_mendQuotes w
  rw [← hab, append_assoc] at hmended
  have hmiddle := forall₂_take_append _ _ _ (forall₂_drop_append _ _ _ hmended)
  rw [← eq_of_forall₂_mended ho hmiddle]
  exact (List.take_prefix _ _).isInfix.trans (drop_suffix _ _).isInfix

/-- Lines that require nothing make up a text without such lines, also when its quotes are mended. -/
theorem not_requires_of_mem_mendQuotes (h : out.any requires = false) :
    ∀ line ∈ lines (mendQuotes (unlines out)), requires line = false := by
  intro line hline
  rw [Bool.eq_false_iff, requires, ne_eq, has_iff]
  intro hcall
  have hwhole : "require(" <:+: mendQuotes (unlines out) := by
    rw [← join_fields '\n' (mendQuotes (unlines out))]
    exact hcall.trans (infix_join_of_mem hline)
  obtain ⟨old, hold, hcall⟩ := infix_join (by decide) (by decide) (infix_of_infix_mendQuotes (by decide) hwhole)
  exact any_eq_false.mp h old hold (has_iff.mpr hcall)

/-! ### Calls in variables -/

/-- A line that requires `m` for a variable that has the closing lines of `v`. -/
def RequiresFor (v : Text) (m : ModuleName) (line : Text) : Prop :=
  requires line ∧ ∃ u, requirement? line = some (u, m) ∧ closingLine u = closingLine v

theorem closingLine_congr {u : Text} (h : without (· == ' ') u = without (· == ' ') v) :
    closingLine u = closingLine v := by
  funext n
  unfold closingLine
  rw [h]

theorem expandLine_of_requiresFor (hm : t.plainText m = .ok text) (h : RequiresFor v m line) (n : Nat) :
    expandLine t n line = .ok (openingLine n :: ((lines text).map (rename n) ++ [closingLine v n])) := by
  obtain ⟨-, u, hu, hclosing⟩ := h
  rw [expandLine_eq, hu]
  simp only [hm, Except.map, hclosing, cons_append, nil_append]

theorem expandOnce_of_requiresFor (hm : t.plainText m = .ok text) (hstill : (lines text).any requires = false)
    (hagain : ∀ n, RequiresFor v m (closingLine v n))
    (hls : ∀ line ∈ ls, requires line → RequiresFor v m line) (n : Nat) :
    ∃ n' ls', expandOnce t n ls = .ok (n', ls') ∧ (∀ line ∈ ls', requires line → RequiresFor v m line) ∧
      ls'.any requires = ls.any requires := by
  induction ls generalizing n with
  | nil => exact ⟨n, [], rfl, hls, rfl⟩
  | cons line ls ih =>
    obtain ⟨hline, hls⟩ := forall_mem_cons.mp hls
    rw [expandOnce_cons]
    cases hrequires : requires line with
    | false =>
      obtain ⟨n', ls', hrest, hls', hany⟩ := ih hls n
      refine ⟨n', line :: ls', by rw [if_neg Bool.false_ne_true, hrest]; rfl, ?_, ?_⟩
      · exact forall_mem_cons.mpr ⟨hline, hls'⟩
      · rw [any_cons, any_cons, hany]
    | true =>
      obtain ⟨n', ls', hrest, hls', -⟩ := ih hls (n + 1)
      refine ⟨n', _, by rw [if_pos rfl, expandLine_of_requiresFor hm (hline hrequires), hrest]; rfl, ?_, ?_⟩
      · intro new hnew hnew'
        rw [mem_append, mem_cons, mem_append, mem_singleton] at hnew
        rcases hnew with (rfl | hnew | rfl) | hnew
        · exact absurd ((not_requires_openingLine n).symm.trans hnew') Bool.false_ne_true
        · obtain ⟨old, hold, rfl⟩ := mem_map.mp hnew
          rw [requires_rename] at hnew'
          exact absurd hnew' (any_eq_false.mp hstill old hold)
        · exact hagain n
        · exact hls' new hnew hnew'
      · simp [any_append, (hagain n).1, hrequires]

/-- A module whose requiring lines are all written again behind what they require has no bundle. -/
theorem bundle_never_ends {own : Text} (hm : t.plainText m = .ok text) (hstill : (lines text).any requires = false)
    (hagain : ∀ n, RequiresFor v m (closingLine v n)) (hx : t.plainText x = .ok own)
    (hown : ∀ line ∈ lines own, requires line → RequiresFor v m line)
    (hsome : (lines own).any requires) (rounds : Nat) : t.bundle rounds x = none := by
  have hnone : ∀ n ls, (∀ line ∈ ls, requires line → RequiresFor v m line) → ls.any requires →
      expand t rounds n ls = none := by
    induction rounds with
    | zero =>
      intro n ls _ hany
      rw [expand, if_pos hany]
    | succ rounds ih =>
      intro n ls hls hany
      obtain ⟨n', ls', hround, hls', hany'⟩ := expandOnce_of_requiresFor hm hstill hagain hls n
      rw [expand, if_pos hany, hround]
      exact ih n' ls' hls' (hany'.trans hany)
  unfold Tree.bundle
  rw [hx]
  simp only [hnone 0 _ hown hsome, Option.map_none]

/-! ### Ranks -/

theorem rank_lt_of_transGen {α : Type*} [Preorder α] {rank : ModuleName → α}
    (hrank : ∀ m m', t.Needs m m' → rank m' < rank m) {m' : ModuleName} (h : Relation.TransGen t.Needs m m') :
    rank m' < rank m := by
  induction h with
  | single h => exact hrank _ _ h
  | tail _ h ih => exact lt_trans (hrank _ _ h) ih

/-- If a rank goes down along whatever modules need, a bundle ends. If it is then a text, the modules stand in
the places of the lines that require them, numbered from 0 on without a gap, the own lines of the module that
require nothing are all there in their order, and no line requires a module any more. -/
theorem bundle_inlines {α : Type*} [Preorder α] (ht : t.Tidy) (rank : ModuleName → α)
    (hrank : ∀ m m', t.Needs m m' → rank m' < rank m) (x : ModuleName) :
    (∃ rounds, (t.bundle rounds x).isSome) ∧
    ∀ rounds result, t.bundle rounds x = some (.ok result) →
      ∃ text numbers out, t.plainText x = .ok text ∧ result = mendQuotes (unlines out) ∧
        Inlined t (lines text) numbers out ∧ numbers.Perm (range numbers.length) ∧
        (numbers.map openingLine).Sublist out ∧ ((lines text).filter fun line => !requires line).Sublist out ∧
        ∀ line ∈ lines result, requires line = false := by
  constructor
  · rw [exists_bundle_iff_settles ht, settles_iff]
    refine .inr fun m _ hcircles => ?_
    obtain ⟨c, -, hcircle⟩ := hcircles
    exact lt_irrefl _ (rank_lt_of_transGen hrank hcircle)
  · intro rounds result h
    unfold Tree.bundle at h
    cases htext : t.plainText x with
    | error e =>
      rw [htext] at h
      cases h
    | ok text =>
      rw [htext] at h
      obtain ⟨r, hr, hresult⟩ := Option.map_eq_some_iff.mp h
      cases r with
      | error e => cases hresult
      | ok r =>
        cases hresult
        obtain ⟨hstill, -, numbers, hinlined, hperm⟩ := inlined_of_expand ht (ht.lines htext) hr
        have hcount : numbers.length = r.1 := by simpa using hperm.length_eq
        refine ⟨text, numbers, r.2, rfl, rfl, hinlined, ?_, hinlined.openings, hinlined.kept,
          not_requires_of_mem_mendQuotes hstill⟩
        rwa [hcount, range_eq_range']

/-- A module that requires a second one, which requires a third. -/
def chain : Tree :=
  Tree.ofFiles [
    ("a.js", "var b = require('b')\nn = 1"),
    ("b.js", "var c = require('c')\nexports.c = c"),
    ("c.js", "exports.v = 1")]

def chainRank (m : ModuleName) : Nat :=
  if m = "c" then 0 else if m = "b" then 1 else 2

theorem chainRank_lt (m m' : ModuleName) (h : chain.Needs m m') : chainRank m' < chainRank m := by
  have hneeded : m' = "b".toList ∨ m' = "c".toList := by
    have hall : chain.allNeeded = ["b".toList, "c".toList] := by decide +kernel
    simpa [hall] using mem_allNeeded h
  have hb : chain.needs "b".toList = ["c".toList] := by decide +kernel
  have hc : chain.needs "c".toList = [] := by decide +kernel
  by_cases hmc : m = "c".toList
  · rw [Tree.Needs, hmc, hc] at h
    cases h
  · by_cases hmb : m = "b".toList
    · rw [Tree.Needs, hmb, hb, mem_singleton] at h
      rw [h, hmb]
      decide
    · have hm : chainRank m = 2 := by rw [chainRank, if_neg hmc, if_neg hmb]
      rcases hneeded with rfl | rfl <;> rw [hm] <;> decide

/-- A loop over what is required: the variable of the line has the call in it. -/
def loop : Tree :=
  Tree.ofFiles [
    ("a.js", "for (var k in require('b')) n = k"),
    ("b.js", "exports.v = 1")]

def loopVariable : Text := "kinrequire('b'))n"

theorem requiresFor_loop (n : Nat) : RequiresFor loopVariable "b" (closingLine loopVariable n) := by
  have hline : closingLine loopVariable n = "var" ++ (" kinrequire('b'))n " ++ '=' :: ' ' :: exportsName n) :=
    rfl
  have hcall : closingLine loopVariable n = "var kin" ++ ("require(" ++ ("'b'" ++ ')' :: (")n = " ++ exportsName n))) :=
    rfl
  have hnewline : '\n' ∉ closingLine loopVariable n := by
    have hname : '\n' ∉ exportsName n := not_mem_exportsName (by decide) rfl
    rw [hline]
    simp [hname]
  have hvariable : between? "var".toList '=' (closingLine loopVariable n) = some " kinrequire('b'))n ".toList := by
    rw [hline, between?, cutAt?_at_start (prefix_append _ _), Option.bind_some, drop_left,
      cutAt?_singleton (by decide), Option.map_some]
  have hmodule : between? "require(".toList ')' (closingLine loopVariable n) = some "'b'".toList := by
    rw [hcall, between?, cutAt?_append (by simp) ⟨'q', by decide, by decide⟩, cutAt?_at_start (prefix_append _ _),
      Option.map_some, Option.bind_some, drop_left, cutAt?_singleton (by decide), Option.map_some]
  refine ⟨?_, " kinrequire('b'))n ", ?_, closingLine_congr rfl⟩
  · rw [requires, has_iff, hcall]
    exact ⟨"var kin", _, append_assoc _ _ _⟩
  · rw [requirement?_eq hnewline, hvariable, hmodule]
    rfl

theorem loop_without_bundle (rounds : Nat) : loop.bundle rounds "a".toList = none := by
  have hb : loop.plainText "b".toList = .ok "exports.v = 1".toList := by decide +kernel
  have ha : loop.plainText "a".toList = .ok "for (var k in require('b')) n = k".toList := by decide +kernel
  have hown : requirement? "for (var k in require('b')) n = k".toList =
      some (" k in require('b')) n ".toList, "b".toList) := by decide +kernel
  refine bundle_never_ends hb (by decide +kernel) requiresFor_loop ha (fun line hline hrequires => ?_)
    (by decide +kernel) rounds
  have hlines : lines "for (var k in require('b')) n = k".toList = ["for (var k in require('b')) n = k".toList] := by
    decide +kernel
  rw [hlines, mem_singleton] at hline
  exact ⟨hrequires, " k in require('b')) n ".toList, by rw [hline, hown], closingLine_congr rfl⟩

theorem chain_inlined : chain.Tidy ∧ (∃ rounds, (chain.bundle rounds "a".toList).isSome) ∧
    chain.bundle 2 "a".toList = some (.ok (ofLines ["var eeExtraExports0 = AttrDict();",
      "var eeExtraExports1 = AttrDict();", "eeExtraExports1.v = 1", "var c = eeExtraExports1",
      "eeExtraExports0.c = c", "var b = eeExtraExports0", "n = 1"])) ∧
    ∃ numbers out, Inlined chain (ofLines ["var b = require('b')", "n = 1"]).lines numbers out ∧
      numbers.Perm (range numbers.length) ∧ ["n = 1".toList].Sublist out := by
  have htidy : chain.Tidy := by decide +kernel
  obtain ⟨hends, hinlines⟩ := bundle_inlines htidy chainRank chainRank_lt "a".toList
  have hbundle : chain.bundle 2 "a".toList = some (.ok (ofLines ["var eeExtraExports0 = AttrDict();",
      "var eeExtraExports1 = AttrDict();", "eeExtraExports1.v = 1", "var c = eeExtraExports1",
      "eeExtraExports0.c = c", "var b = eeExtraExports0", "n = 1"])) := by decide +kernel
  refine ⟨htidy, hends, hbundle, ?_⟩
  obtain ⟨text, numbers, out, htext, -, hinlined, hperm, -, hkept, -⟩ := hinlines 2 _ hbundle
  have hown : chain.plainText "a".toList = .ok (ofLines ["var b = require('b')", "n = 1"]) := by decide +kernel
  obtain rfl := Except.ok.inj (htext.symm.trans hown)
  have hown : (lines (ofLines ["var b = require('b')", "n = 1"])).filter (fun line => !requires line) =
      ["n = 1".toList] := by decide +kernel
  exact ⟨numbers, out, hinlined, hperm, hown ▸ hkept⟩

end Geoscript.Store
