import Geoscript.Proofs.Text.Ink
import Geoscript.Script.Identifier

/-! The names that statements about scripts are made for. No sign of a script is part of a name (`IsName.not_mem`). -/

namespace Geoscript.Script
open Text
variable {v : Text} {c : Char}

/-- A name: word characters and dollar signs. -/
def IsName (v : Text) : Prop :=
  v ≠ [] ∧ ∀ c ∈ v, isWord c ∨ c = '$'

theorem IsName.not_mem (hv : IsName v) (hword : isWord c = false) (hdollar : c ≠ '$') : c ∉ v := fun hc => by
  rcases hv.2 c hc with h | h
  · rw [hword] at h
    cases h
  · exact hdollar h

/-- The name of a variable: a name without blanks. -/
structure IsVariable (v : Text) : Prop where
  name : IsName v
  solid : ∀ c ∈ v, isBlank c = false

/-- The characters of variables. -/
def isNameChar (c : Char) : Bool :=
  (isWord c || c == '$') && !isBlank c

theorem IsVariable.ne_nil (hv : IsVariable v) : v ≠ [] :=
  hv.name.1

theorem IsVariable.chars (hv : IsVariable v) : ∀ c ∈ v, isNameChar c := fun c hc => by
  simpa [isNameChar, hv.solid c hc] using hv.name.2 c hc

theorem isVariable_of_all (hne : v ≠ []) (h : v.all isNameChar) : IsVariable v := by
  simp only [List.all_eq_true, isNameChar, Bool.and_eq_true, Bool.or_eq_true, beq_iff_eq, Bool.not_eq_true'] at h
  exact ⟨⟨hne, fun c hc => (h c hc).1⟩, fun c hc => (h c hc).2⟩

theorem IsVariable.not_mem (hv : IsVariable v) (c : Char) (hc : isNameChar c = false) : c ∉ v := fun h => by
  have hchar := hv.chars c h
  rw [hc] at hchar
  cases hchar

theorem isBlank_of_isSpace (h : isSpace c) : isBlank c := by
  rw [isBlank, h, Bool.true_or]

theorem not_isSpace_of_isNameChar (h : isNameChar c) : isSpace c = false := by
  rw [isNameChar, isBlank, Bool.and_eq_true, Bool.not_eq_true', Bool.or_eq_false_iff] at h
  exact h.2.1

theorem IsVariable.not_isSpace (hv : IsVariable v) : ∀ c ∈ v, isSpace c = false := fun c hc =>
  not_isSpace_of_isNameChar (hv.chars c hc)

theorem IsVariable.trim_around {a b : Text} (hv : IsVariable v) (ha : Blank a) (hb : Blank b) :
    trim (a ++ v ++ b) = v :=
  Text.trim_around ha hb hv.name.1 (fun c hc => hv.solid c (List.mem_of_mem_head? hc))
    fun c hc => hv.solid c (List.mem_of_mem_getLast? hc)

end Geoscript.Script
