import Geoscript.Proofs.Pattern.Between
import Geoscript.Proofs.Pattern.Scan
import Geoscript.Store.Bundle

/-! Lines that require a module: which variable gets it and which module it is (`requirement?`). Giving the exports
another name leaves both alone in a tidy line. -/

namespace Geoscript.Store
open List Text

variable {line t : Text} {n : Nat}

/-- The variable and the module of a line that requires a module. -/
def requirement? (line : Text) : Option (Text × ModuleName) := do
  let target ← declared.search? line
  let required ← requireCall.search? line
  return (target.group 1, unquoted (required.group 1))

/-- A line whose variable has no call in it, and whose module is not named after the exports. -/
def tidy (line : Text) : Bool :=
  (declared.search? line).all (fun m => !(m.group 1).contains '(') &&
    (requireCall.search? line).all fun m => !has "exports" (m.group 1)

/-- The text with another name for the exports. -/
def rename (n : Nat) (t : Text) : Text :=
  replace "exports" (exportsName n) t

theorem exports_ne_nil : "exports".toList ≠ [] := by decide

/-! ### The new name -/

theorem exportsName_eq (n : Nat) : exportsName n = "eeExtraExports" ++ Nat.toDigits 10 n := rfl

theorem mem_exportsName {c : Char} (h : c ∈ exportsName n) : c ∈ "eeExtraExports".toList ∨ c.isDigit :=
  (mem_append.mp h).imp_right (Nat.isDigit_of_mem_toDigits (by decide) (by decide))

theorem not_mem_exportsName {c : Char} (h : c ∉ "eeExtraExports".toList) (hc : c.isDigit = false) :
    c ∉ exportsName n := fun hmem => by
  rcases mem_exportsName hmem with hmem | hdigit
  · exact h hmem
  · exact Bool.false_ne_true (hc.symm.trans hdigit)

theorem clear_exportsName {o : Text} (hdigits : ∀ c ∈ o, c.isDigit = false)
    (hother : ∃ c ∈ o, c ∉ "eeExtraExports".toList)
    (hedge : (∀ c ∈ o.getLast?, c ∉ "eeExtraExports".toList) ∨ 'e' ∉ o) (n : Nat) : Clear o (exportsName n) where
  last c hc hmem := by
    have hdigit : c ∈ Nat.toDigits 10 n := by
      rw [exportsName_eq, getLast?_append, getLast?_eq_some_getLast Nat.toDigits_ne_nil] at hc
      exact Option.some.inj hc ▸ getLast_mem Nat.toDigits_ne_nil
    have := Nat.isDigit_of_mem_toDigits (by decide) (by decide) hdigit
    exact Bool.false_ne_true ((hdigits c hmem).symm.trans this)
  other := by
    obtain ⟨c, hc, hnot⟩ := hother
    exact ⟨c, hc, not_mem_exportsName hnot (hdigits c hc)⟩
  edge x := not_edge <| hedge.imp
    (fun h c hc => not_mem_exportsName (h c hc) (hdigits c (mem_of_getLast? hc)))
    fun h c hc => Option.some.inj (show some 'e' = some c from hc) ▸ h

theorem clear_require_exports : Clear "require(" "exports" where
  last := by simp
  other := ⟨'q', by decide, by decide⟩
  edge x := not_edge (.inl (by simp))

theorem clear_var_exports : Clear "var" "exports" where
  last := by simp
  other := ⟨'v', by decide, by decide⟩
  edge x := not_edge (.inr (by simp))

theorem clear_require_name (n : Nat) : Clear "require(".toList (exportsName n) :=
  clear_exportsName (by simp) ⟨'q', by decide, by decide⟩ (.inl (by simp)) n

theorem clear_var_name (n : Nat) : Clear "var" (exportsName n) :=
  clear_exportsName (by simp) ⟨'v', by decide, by decide⟩ (.inr (by decide)) n

theorem exportsName_ne_nil (n : Nat) : exportsName n ≠ [] := fun h =>
  absurd (append_eq_nil_iff.mp h).2 Nat.toDigits_ne_nil

/-! ### Lines with another name for the exports -/

theorem group_declared (hline : '\n' ∉ line) : (declared.search? line).map (·.group 1) = between? "var" '=' line :=
  Pattern.search?_between (by decide) hline

theorem group_requireCall (hline : '\n' ∉ line) :
    (requireCall.search? line).map (·.group 1) = between? "require(" ')' line :=
  Pattern.search?_between (by decide) hline

theorem requires_rename (n : Nat) (line : Text) : requires (rename n line) = requires line := by
  have hcut := cutAt?_replace exports_ne_nil (exportsName_ne_nil n) clear_require_exports (clear_require_name n) line
  rw [Bool.eq_iff_iff, requires, requires, has_iff, has_iff, ← cutAt?_isSome_iff, ← cutAt?_isSome_iff, rename, hcut,
    Option.isSome_map]

theorem not_mem_rename {c : Char} (h : c ∉ line) (hname : c ∉ exportsName n) : c ∉ rename n line := fun hmem =>
  (mem_replace exports_ne_nil hmem).elim h hname

theorem requirement?_eq (hline : '\n' ∉ line) : requirement? line = (between? "var" '=' line).bind fun v =>
      (between? "require(" ')' line).map fun m => (v, unquoted m) := by
  rw [requirement?, ← group_declared hline, ← group_requireCall hline]
  cases declared.search? line <;> cases requireCall.search? line <;> rfl

theorem tidy_iff (hline : '\n' ∉ line) : tidy line ↔ (∀ v ∈ between? "var" '=' line, '(' ∉ v) ∧
      ∀ m ∈ between? "require(" ')' line, ¬"exports" <:+: m := by
  rw [tidy, ← group_declared hline, ← group_requireCall hline]
  cases declared.search? line <;> cases requireCall.search? line <;> simp [← has_iff]

theorem variable_of_tidy {r : Text × ModuleName} (hline : '\n' ∉ line) (h : tidy line)
    (hr : requirement? line = some r) : '(' ∉ r.1 := by
  rw [requirement?_eq hline] at hr
  obtain ⟨v, hv, hr⟩ := Option.bind_eq_some_iff.mp hr
  obtain ⟨m, -, rfl⟩ := Option.map_eq_some_iff.mp hr
  exact ((tidy_iff hline).mp h).1 v hv

theorem between?_var_rename (n : Nat) (line : Text) :
    between? "var" '=' (rename n line) = (between? "var" '=' line).map (rename n) :=
  between?_replace exports_ne_nil (exportsName_ne_nil n) clear_var_exports (clear_var_name n) (by decide)
    (not_mem_exportsName (by decide) rfl) line

theorem between?_require_rename (n : Nat) (hline : '\n' ∉ line) (h : tidy line) :
    between? "require(".toList ')' (rename n line) = between? "require(".toList ')' line := by
  have hkept : ∀ m ∈ between? "require(" ')' line, rename n m = m := fun m hm =>
    replace_of_not_occurs exports_ne_nil (((tidy_iff hline).mp h).2 m hm)
  rw [rename, between?_replace exports_ne_nil (exportsName_ne_nil n) clear_require_exports (clear_require_name n)
    (by decide) (not_mem_exportsName (by decide) rfl) line]
  cases hm : between? "require(" ')' line with
  | none => rfl
  | some m => exact congrArg some (hkept m hm)

theorem not_mem_newline_rename (n : Nat) (hline : '\n' ∉ line) : '\n' ∉ rename n line :=
  not_mem_rename hline (not_mem_exportsName (by decide) rfl)

theorem requirement?_rename (n : Nat) (hline : '\n' ∉ line) (h : tidy line) :
    requirement? (rename n line) = (requirement? line).map fun r => (rename n r.1, r.2) := by
  rw [requirement?_eq (not_mem_newline_rename n hline), requirement?_eq hline, between?_var_rename,
    between?_require_rename n hline h]
  cases between? "var" '=' line <;> cases between? "require(" ')' line <;> rfl

theorem tidy_rename (n : Nat) (hline : '\n' ∉ line) (h : tidy line) : tidy (rename n line) := by
  obtain ⟨hvar, hmodule⟩ := (tidy_iff hline).mp h
  rw [tidy_iff (not_mem_newline_rename n hline), between?_var_rename, between?_require_rename n hline h]
  refine ⟨fun v hv => ?_, hmodule⟩
  obtain ⟨w, hw, rfl⟩ := Option.map_eq_some_iff.mp hv
  exact not_mem_rename (hvar w hw) (not_mem_exportsName (by decide) rfl)

theorem lines_rename (n : Nat) (t : Text) : lines (rename n t) = (lines t).map (rename n) :=
  fields_replace exports_ne_nil (by decide) (not_mem_exportsName (by decide) rfl) t

/-! ### What a line becomes -/

/-- The line before a module, which makes room for its exports. -/
def openingLine (n : Nat) : Text :=
  "var " ++ exportsName n ++ " = AttrDict();"

/-- The line behind a module, which hands its exports over. -/
def closingLine (v : Text) (n : Nat) : Text :=
  "var " ++ without (· == ' ') v ++ " = " ++ exportsName n

theorem expandLine_eq (t : Tree) (n : Nat) (line : Text) : expandLine t n line = match requirement? line with
      | none => .error .badRequire
      | some (v, m) =>
        (t.plainText m).map fun text => [openingLine n] ++ (lines text).map (rename n) ++ [closingLine v n] := by
  unfold expandLine requirement?
  cases declared.search? line with
  | none => rfl
  | some target =>
    cases requireCall.search? line with
    | none => rfl
    | some required =>
      simp only [← lines_rename]
      show (t.plainText (unquoted (required.group 1)) >>= _) = (t.plainText (unquoted (required.group 1))).map _
      cases t.plainText (unquoted (required.group 1)) <;> rfl

theorem not_requires_of_not_mem {c : Char} (hc : c ∈ "require(".toList) (h : c ∉ line) : requires line = false := by
  rw [requires, Bool.eq_false_iff, ne_eq, has_iff]
  exact fun hin => h (hin.subset hc)

theorem not_requires_openingLine (n : Nat) : requires (openingLine n) = false := by
  have hname : 'q' ∉ exportsName n := not_mem_exportsName (by decide) rfl
  refine not_requires_of_not_mem (c := 'q') (by decide) fun hmem => ?_
  rcases mem_append.mp hmem with hmem | hmem
  · exact (mem_append.mp hmem).elim (by decide) hname
  · exact absurd hmem (by decide)

theorem not_requires_closingLine {v : Text} (hv : '(' ∉ v) (n : Nat) : requires (closingLine v n) = false := by
  have hname : '(' ∉ exportsName n := not_mem_exportsName (by decide) rfl
  have hvar : '(' ∉ without (· == ' ') v := fun h => hv (mem_filter.mp h).1
  refine not_requires_of_not_mem (c := '(') (by decide) fun hmem => ?_
  rcases mem_append.mp hmem with hmem | hmem
  · rcases mem_append.mp hmem with hmem | hmem
    · exact (mem_append.mp hmem).elim (by decide) hvar
    · exact absurd hmem (by decide)
  · exact hname hmem

end Geoscript.Store
