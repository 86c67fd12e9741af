import Geoscript.Proofs.Script.LoopDefinitions

/-! Declarations of reserved words. The names that are tested have the blanks before them, so the test is never met
(`dropVar_eq`), and a reserved word is declared like any other name. -/

namespace Geoscript.Script
open List Text
variable {name word t : Text} {names : List Text}

theorem IsDeclared.not_infix (h : IsDeclared name) (hword : ∀ c ∈ word, isSpace c = false) :
    ¬"var".toList ++ name <:+: word := by
  obtain ⟨blanks, n, rfl, hblanks, -, hspace, -⟩ := h
  obtain ⟨blank, hblank⟩ := exists_mem_of_ne_nil blanks hblanks
  intro hocc
  have hsolid := hword blank (hocc.subset (by simp [hblank]))
  rw [hspace blank hblank] at hsolid
  cases hsolid

/-- A word at the end of a text stays there: a declaration that reaches into the word does so with its name only, and
the name is kept. -/
theorem IsDeclared.suffix_replace (h : IsDeclared name) (hword : ∀ c ∈ word, isSpace c = false) (ht : word <:+ t) :
    word <:+ replace ("var" ++ name) (without (· == ' ') name) t := by
  have hold : "var".toList ++ name ≠ [] := by simp
  induction t using replace_induction hold with
  | nil => rwa [replace_nil hold]
  | hit t ih =>
    rw [replace_append hold]
    obtain ⟨x, hx⟩ := ht
    rcases append_eq_append_iff.mp hx with ⟨part, hpart, rfl⟩ | ⟨gap, -, rfl⟩
    · have hrest : ∀ c ∈ t, isSpace c = false := fun c hc => hword c (mem_append_right part hc)
      rw [replace_of_not_occurs hold (h.not_infix hrest)]
      obtain ⟨blanks, n, rfl, hblanks, -, hspace, hn⟩ := h
      obtain ⟨front, blank, rfl⟩ := (eq_nil_or_concat' blanks).resolve_left hblanks
      have hblank : blank ∉ part := fun hmem => by
        have hsolid := hword blank (mem_append_left t hmem)
        rw [hspace blank (by simp)] at hsolid
        cases hsolid
      have hcut : x ++ part = ("var" ++ front) ++ blank :: n := by
        rw [← hpart]
        simp
      obtain ⟨mid, -, rfl⟩ := cut_left hblank hcut
      have hkept : without (· == ' ') part = part :=
        filter_eq_self.mpr fun c hc => by
          have hne : c ≠ ' ' := fun heq => by
            have hsolid := hword c (mem_append_left t hc)
            rw [heq] at hsolid
            cases hsolid
          simp [hne]
      rw [← append_assoc, without_append, hkept, append_assoc]
      exact suffix_append _ _
    · exact (ih (suffix_append gap word)).trans (suffix_append _ _)
  | miss c t hpre ih =>
    rcases suffix_cons_iff.mp ht with rfl | ht
    · rw [replace_of_not_occurs hold (h.not_infix hword)]
    · rw [replace_cons hold hpre]
      exact (ih ht).trans (suffix_cons c _)

theorem IsDeclared.infix_dropName (h : IsDeclared name) (hword : ∀ c ∈ word, isSpace c = false)
    (ht : word ++ " = ".toList <:+: t) : word ++ " = ".toList <:+: dropName name t := by
  have hold : "var".toList ++ name ≠ [] := by simp
  have hequals : '=' ∉ "var" ++ name := by simp [h.not_mem '=' rfl rfl]
  unfold dropName
  split
  · exact ht
  · obtain ⟨x, y, rfl⟩ := ht
    have hcut : x ++ (word ++ " = ") ++ y = ((x ++ word) ++ [' ']) ++ '=' :: ' ' :: y := by simp
    have hback : ¬"var".toList ++ name <+: ' ' :: y := fun hpre => absurd (cons_prefix_cons.mp hpre).1 (by decide)
    obtain ⟨front, hfront⟩ := h.suffix_replace hword (suffix_append x word)
    have hblank : replace ("var" ++ name) (without (· == ' ') name) ((x ++ word) ++ [' ']) =
        (front ++ word) ++ [' '] := by
      obtain ⟨blanks, n, rfl, -, hn, -, hset⟩ := h
      rw [replace_var_blank hn hset, hfront]
    rw [hcut, replace_append_cons hold hequals, hblank, replace_cons hold hback]
    exact ⟨front, replace ("var" ++ name) (without (· == ' ') name) y, by simp⟩

theorem infix_dropNames (h : ∀ name ∈ names, IsDeclared name) (hword : ∀ c ∈ word, isSpace c = false)
    (ht : word ++ " = ".toList <:+: t) : word ++ " = ".toList <:+: dropNames names t := by
  induction names generalizing t with
  | nil => exact ht
  | cons name names ih =>
    rw [forall_mem_cons] at h
    exact ih h.2 (h.1.infix_dropName hword ht)

/-- A script that declares a reserved word, whatever stands before the declaration and behind its equals sign, is not
refused, and the reserved word is assigned to in the result. -/
theorem reserved_word_assigned {w : String} (hw : w ∈ reservedWords) (a b : Text) :
    ∃ u, dropVar (a ++ "var ".toList ++ w.toList ++ " = ".toList ++ b) = .ok u ∧ w.toList ++ " = ".toList <:+: u := by
  have hsolid : reservedWords.all (fun w => w.toList.all fun c => !isSpace c) := by decide
  have hword : ∀ c ∈ w.toList, isSpace c = false := fun c hc => by
    simpa using all_eq_true.mp (all_eq_true.mp hsolid w hw) c hc
  refine ⟨_, dropVar_eq _, infix_dropNames (fun _ => isDeclared_of_mem) hword ?_⟩
  exact ⟨a ++ "var ".toList, b, by simp⟩

theorem class_assigned : "class" ∈ reservedWords ∧
    ∃ u, dropVar ("a = 2;\n".toList ++ "var ".toList ++ "class".toList ++ " = ".toList ++ "1;".toList) = .ok u ∧
      "class".toList ++ " = ".toList <:+: u :=
  ⟨by decide, reserved_word_assigned (by decide) _ _⟩

end Geoscript.Script
