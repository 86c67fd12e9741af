import Geoscript.Proofs.Script.LoopDefinitions

/-! The indentation of a loop is written before the first of its definitions and before a loop over a range, and
nowhere else. -/

namespace Geoscript.Script
open List Text Pattern

/-! ### The header -/

inductive Update where
  | increment
  | nothing
  deriving DecidableEq

def Update.written (v : Identifier) : Update → Text
  | increment => v.text ++ "++"
  | nothing => []

/-- The word that declares variables, or none. -/
def declaringWord (declared : Bool) : Text :=
  if declared then "var " else []

/-- An indented line with a header that defines any number of variables and compares one of them. -/
def loopHeader (w : Text) (declared : Bool) (ds : List Assignment) (v : Identifier) (b : Term) (u : Update) : Text :=
  w ++ "for (" ++ definitionsPart (declaringWord declared) ds ++ "; " ++ v.text ++ " < " ++
    b.text ++ "; " ++ u.written v ++ ") \x7b"

variable {w t word : Text} {ds : List Assignment} {v : Identifier} {b : Term} {u : Update} {declared : Bool}
  {c : Char}

/-! ### What the header becomes -/

def comparedPart (v : Identifier) (b : Term) : Text :=
  ' ' :: v.text ++ " < " ++ b.text

/-- The lines that a header becomes whose definitions have become the given text. -/
def loopLines (w definitions : Text) (v : Identifier) (b : Term) : Update → Text
  | .increment => definitions ++ "\n" ++ w ++ "for " ++ v.text ++ " in range(" ++ v.text ++
      ", " ++ without isSpace b.text ++ ", " ++ "1" ++ "):\n"
  | .nothing => definitions ++ "\n" ++ "\nwhile " ++ (v.text ++ "<" ++ without isSpace b.text) ++ " :\n"

theorem Term.still_blank (b : Term) : isStep (' ' :: b.text) = false := by
  have hcut := isStep_append_cons (x := []) (y := b.text) (by decide : ' ' ≠ '+') (by decide)
  rw [nil_append, b.still] at hcut
  exact hcut

theorem isStep_comparedPart : isStep (comparedPart v b) = false := by
  have hleft : Defining (' ' :: v.text ++ [' ']) :=
    .of_madeOf (((v.isVariable.madeOf _).cons (by decide)).append (by decide))
  have hcut : comparedPart v b = (' ' :: v.text ++ [' ']) ++ '<' :: (' ' :: b.text) := by
    simp [comparedPart]
  rw [hcut, isStep_append_cons (by decide) (by decide), hleft.still, b.still_blank]
  rfl

theorem isCondition_comparedPart : isCondition (comparedPart v b) := by
  have hsymbol : has Comparison.lt.symbol (comparedPart v b) :=
    has_iff.mpr ⟨' ' :: v.text ++ [' '], ' ' :: b.text, by simp [comparedPart, Comparison.symbol]⟩
  exact any_eq_true.mpr ⟨.lt, by decide, hsymbol⟩

theorem without_comparedPart :
    without isSpace (comparedPart v b) = v.text ++ Comparison.lt.symbol ++ without isSpace b.text := by
  have hblank (t : Text) : without isSpace (' ' :: t) = without isSpace t := rfl
  rw [comparedPart, without_append, without_append, hblank, without_isSpace v.isVariable.not_isSpace]
  rfl

theorem isCondition_update : isCondition (' ' :: u.written v) = false := by
  cases u with
  | increment => exact @isCondition_stepPart v.text .up v.isVariable
  | nothing => exact (by decide : isCondition [' '] = false)

theorem isStep_update : isStep (' ' :: u.written v) = decide (u = .increment) := by
  cases u with
  | increment => exact @isStep_stepPart v.text .up
  | nothing => exact (by decide : isStep [' '] = false)

def loopInside (word : Text) (ds : List Assignment) (v : Identifier) (b : Term) (u : Update) : Text :=
  definitionsPart word ds ++ ';' :: (comparedPart v b ++ ';' :: ' ' :: u.written v)

theorem semicolon_not_mem_comparedPart : ';' ∉ comparedPart v b := by
  simp [comparedPart, v.isVariable.not_mem ';' rfl, b.not_mem ';' (by decide)]

theorem semicolon_not_mem_update : ';' ∉ ' ' :: u.written v := by
  cases u <;> simp [Update.written, v.isVariable.not_mem ';' rfl]

theorem fields_loopInside (hword : MadeOf " " word) : fields ';' (loopInside word ds v b u) =
    [definitionsPart word ds, comparedPart v b, ' ' :: u.written v] := by
  have hdefinitions : ';' ∉ definitionsPart word ds := fun h => unsigned_definitionsPart hword h (by decide) (by decide)
  rw [loopInside, fields_append_cons hdefinitions, fields_append_cons semicolon_not_mem_comparedPart,
    fields_of_not_mem semicolon_not_mem_update]

theorem readable_loopInside (hword : MadeOf " " word) : Readable (loopInside word ds v b u) where
  ne_nil := by simp [loopInside]
  shallow := by
    have hname : Shallow v.text :=
      .of_not_mem (v.isVariable.not_mem '(' rfl) (v.isVariable.not_mem ')' rfl)
    have hdefinitions : Shallow (definitionsPart word ds) := by
      rw [definitionsPart_eq]
      exact .join fun t ht => (defining_of_mem hword ht).shallow
    have hcompared : Shallow (comparedPart v b) :=
      ((Shallow.char (by decide) (by decide) hname).append (.of_not_mem (by decide) (by decide))).append b.shallow
    have hupdate : Shallow (' ' :: u.written v) := by
      cases u with
      | increment => exact .char (by decide) (by decide) (hname.append (.of_not_mem (by decide) (by decide)))
      | nothing => exact .of_not_mem (t := [' ']) (by decide) (by decide)
    exact hdefinitions.append (.char (by decide) (by decide) (hcompared.append (.char (by decide) (by decide) hupdate)))
  no_break := by
    have hdefinitions : '\n' ∉ definitionsPart word ds := fun h =>
      unsigned_definitionsPart hword h (by decide) (by decide)
    have hname := v.isVariable.not_mem '\n' rfl
    cases u <;> simp [loopInside, comparedPart, Update.written, hdefinitions, hname, b.not_mem '\n' (by decide)]

theorem not_mem_loopLines (hw : Indent w) (hword : MadeOf " ".toList word) (c : Char) (hset : nameSet.has c = false)
    (hname : isNameChar c = false) (hsign : c ∈ partingSigns) (hother : c ∉ ",\n for in range(1):while<".toList) :
    c ∉ loopLines w (replace [','] ['\n'] (bareDefinition (definitionsPart word ds))) v b u := by
  have hne : c ≠ ',' ∧ c ≠ '\n' ∧ c ≠ ' ' := by
    refine ⟨?_, ?_, ?_⟩ <;> (rintro rfl; exact hother (by decide))
  have hdefinitions : c ∉ replace [','] ['\n'] (bareDefinition (definitionsPart word ds)) := fun h => by
    rcases mem_replace (by decide) h with h | h
    · exact unsigned_definitionsPart hword (mem_bareDefinition h hset).1 hne.1 hsign
    · exact hne.2.1 (mem_singleton.mp h)
  have hindent : c ∉ w := hw.not_mem hne.2.2
  have hcounter : c ∉ v.text := v.isVariable.not_mem c hname
  have hbound : c ∉ without isSpace b.text := fun h =>
    b.not_mem c (mem_cons_of_mem '=' hsign) (mem_of_mem_filter h)
  cases u <;> simp_all [loopLines]

theorem Term.unsigned_without (b : Term) : ∀ c ∈ '=' :: partingSigns, c ∉ without isSpace b.text := fun c hc h =>
  b.not_mem c hc (mem_of_mem_filter h)

theorem find?_compared : Comparison.find? (v.text ++ Comparison.lt.symbol ++ without isSpace b.text) = some .lt := by
  have hall : "<>=!".toList.all ('=' :: partingSigns).contains := by decide
  have hright : ∀ c ∈ "<>=!".toList, c ∉ without isSpace b.text := fun c hc =>
    b.unsigned_without c (contains_iff_mem.mp (all_eq_true.mp hall c hc))
  simp only [Comparison.find?, has_symbol_between v.isVariable.unsigned hright]
  rfl

theorem splitOn_compared : splitOn Comparison.lt.symbol (v.text ++ Comparison.lt.symbol ++ without isSpace b.text) =
    [v.text, without isSpace b.text] := by
  rw [append_assoc]
  exact splitOn_of_not_mem (v.isVariable.not_mem '<' rfl) (b.unsigned_without '<' (by decide))

theorem forLoop_loopInside (hw : Indent w) (hword : MadeOf " ".toList word) : forLoop w (loopInside word ds v b u) =
      .ok (loopLines w (replace [','] ['\n'] (bareDefinition (definitionsPart word ds))) v b u) := by
  have hkept := @dropUnmatched_of_not_mem
    (loopLines w (replace [','] ['\n'] (bareDefinition (definitionsPart word ds))) v b u)
    (not_mem_loopLines hw hword '{' rfl rfl (by decide) (by decide))
    (not_mem_loopLines hw hword '}' rfl rfl (by decide) (by decide))
  rw [forLoop_of_parts (fields_loopInside hword) ⟨isStep_definitionsPart hword, isCondition_definitionsPart hword⟩
    ⟨isStep_comparedPart, isCondition_comparedPart⟩ ⟨isStep_update, isCondition_update⟩
    (without_comparedPart ▸ find?_compared) (without_comparedPart ▸ splitOn_compared) (definitionLines_eq _),
    without_comparedPart, ← hkept]
  refine congrArg (fun t => Except.ok (dropUnmatched t)) ?_
  cases u with
  | increment =>
    have hamount : (if has "++".toList (without isSpace (' ' :: Update.increment.written v)) then "1".toList
        else "-1".toList) = "1".toList := @amount_stepPart v.text .up v.isVariable
    simp only [hamount]
    rfl
  | nothing =>
    have hnothing : bareDefinition (' ' :: Update.nothing.written v) = [] := (by decide : bareDefinition [' '] = [])
    have htext : unlines ([definitionsPart word ds, ' ' :: Update.nothing.written v].map bareDefinition) =
        bareDefinition (definitionsPart word ds) ++ '\n' :: [] := by
      show bareDefinition (definitionsPart word ds) ++ ['\n'] ++ bareDefinition (' ' :: Update.nothing.written v) = _
      rw [hnothing, append_nil]
    have hlast : decide (Update.nothing = .increment) = false := rfl
    rw [hlast, if_neg Bool.false_ne_true, if_neg Bool.false_ne_true, htext, replace_append_cons (by decide) (by decide),
      replace_nil (by decide)]
    rfl

/-! ### The indentation -/

theorem Indent.prefix_iff (hw : Indent w) (hc : c ≠ ' ') : w <+: c :: t ↔ w = [] := by
  constructor
  · intro h
    rcases prefix_cons_iff.mp h with rfl | ⟨x, rfl, -⟩
    · rfl
    · exact absurd (hw c mem_cons_self) hc
  · rintro rfl
    exact nil_prefix

theorem Indent.prefix_name_iff (hw : Indent w) (v : Identifier) : w <+: v.text ++ t ↔ w = [] := by
  obtain ⟨c, x, hx⟩ := exists_cons_of_ne_nil v.isVariable.ne_nil
  have hc : c ≠ ' ' := fun h => v.isVariable.not_mem ' ' rfl (h ▸ hx ▸ mem_cons_self)
  rw [hx, cons_append, hw.prefix_iff hc]

theorem lines_definitions (hw : Indent w) {definitions first rest : Text} {others : List Text}
    (hline : '\n' ∉ definitions) (hfields : fields ',' definitions = first :: others) :
    lines (w ++ (replace [','] ['\n'] definitions ++ '\n' :: rest)) = (w ++ first) :: (others ++ lines rest) := by
  have hlines : fields '\n' (replace [','] ['\n'] definitions) = first :: others :=
    (fields_replace_sep hline).trans hfields
  rw [← append_assoc, lines, fields_append_sep, fields_append_left (hw.not_mem (by decide)) hlines]
  rfl

theorem lines_loopLines (hw : Indent w) {definitions first : Text} {others : List Text}
    (hline : '\n' ∉ definitions) (hfields : fields ',' definitions = first :: others) :
    lines (w ++ loopLines w (replace [','] ['\n'] definitions) v b u) = (w ++ first) :: (others ++ match u with
      | .increment => [w ++ ("for " ++ v.text ++ " in range(" ++ v.text ++ ", " ++
          without isSpace b.text ++ ", 1):"), []]
      | .nothing => [[], "while " ++ (v.text ++ "<" ++ without isSpace b.text ++ " :"), []]) := by
  have hname : '\n' ∉ v.text := v.isVariable.not_mem '\n' rfl
  have hbound : '\n' ∉ without isSpace b.text := b.unsigned_without '\n' (by decide)
  cases u with
  | increment =>
    have htext : w ++ loopLines w (replace [','] ['\n'] definitions) v b .increment =
        w ++ (replace [','] ['\n'] definitions ++ '\n' :: ((w ++ ("for " ++ v.text ++ " in range(" ++
          v.text ++ ", " ++ without isSpace b.text ++ ", 1):")) ++ '\n' :: [])) := by
      simp [loopLines]
    rw [htext, lines_definitions hw hline hfields, lines, fields_append_cons (by simp [hw.not_mem, hname, hbound])]
    rfl
  | nothing =>
    have htext : w ++ loopLines w (replace [','] ['\n'] definitions) v b .nothing =
        w ++ (replace [','] ['\n'] definitions ++ '\n' :: ('\n' :: (("while " ++ (v.text ++ "<" ++
          without isSpace b.text ++ " :")) ++ '\n' :: []))) := by
      simp [loopLines]
    rw [htext, lines_definitions hw hline hfields, lines, fields_cons_sep rfl,
      fields_append_cons (by simp [hname, hbound])]
    rfl

theorem convertForLoops_loopHeader (hw : Indent w) : convertForLoops (loopHeader w declared ds v b u) =
    .ok (w ++ loopLines w (replace [','] ['\n'] (bareDefinition (definitionsPart (declaringWord declared) ds))) v b
      u) := by
  have hword : MadeOf " " (declaringWord declared) := by
    cases declared <;> decide
  have hline : loopHeader w declared ds v b u = headerLine w (loopInside (declaringWord declared) ds v b u) := by
    simp [loopHeader, headerLine, loopInside, comparedPart]
  rw [hline, convertForLoops_headerLine hw (readable_loopInside hword), forLoop_loopInside hw hword]
  rfl

/-- A header on an indented line becomes several lines. All of them keep the indentation if and only if there is none,
or the header steps and has one definition at most: a second definition and a loop without a step lose it. -/
theorem loop_lines_indented_iff (hw : Indent w) (declared : Bool) (ds : List Assignment) (v : Identifier) (b : Term)
    (u : Update) : ∃ t, convertForLoops (loopHeader w declared ds v b u) = .ok t ∧
      ((∀ l ∈ lines t, (∃ c ∈ l, isBlank c = false) → w <+: l) ↔ w = [] ∨ u = .increment ∧ ds.length ≤ 1) := by
  refine ⟨_, convertForLoops_loopHeader hw, ?_⟩
  have hword : MadeOf " " (declaringWord declared) := by
    cases declared <;> decide
  have hline : '\n' ∉ bareDefinition (definitionsPart (declaringWord declared) ds) := fun h =>
    absurd (mem_bareDefinition h (by decide)).2 (by decide)
  obtain ⟨first, others, hfields, hlength, hnames⟩ := fields_bareDefinition hword ds
  rw [lines_loopLines hw hline hfields]
  constructor
  · intro h
    cases u with
    | increment =>
      cases others with
      | nil => exact .inr ⟨rfl, by rw [length_nil] at hlength; omega⟩
      | cons l others =>
        obtain ⟨v', y, rfl⟩ := hnames l mem_cons_self
        exact .inl ((hw.prefix_name_iff v').mp (h (v'.text ++ '=' :: y) (by simp) ⟨'=', by simp, rfl⟩))
    | nothing =>
      have hloop := h ("while " ++ (v.text ++ "<" ++ without isSpace b.text ++ " :")) (by simp)
        ⟨'w', by simp, rfl⟩
      exact .inl ((hw.prefix_iff (by decide)).mp hloop)
  · rintro (rfl | ⟨rfl, hone⟩) l hl ⟨c, hc, -⟩
    · exact nil_prefix
    · obtain rfl : others = [] := length_eq_zero_iff.mp (by omega)
      simp only [nil_append, mem_cons, not_mem_nil, or_false] at hl
      rcases hl with rfl | rfl | rfl
      · exact prefix_append w _
      · exact prefix_append w _
      · cases hc

def Term.number (i : Int) : Term where
  text := decimal i
  shallow := .of_not_mem (not_mem_decimal (by decide) (by decide)) (not_mem_decimal (by decide) (by decide))
  unsigned c hc hsign := by
    have hall : ('=' :: partingSigns).all (fun c => !c.isDigit && c != '-') := by decide
    have hother : c.isDigit = false ∧ c ≠ '-' := by simpa using all_eq_true.mp hall c hsign
    exact not_mem_decimal hother.1 hother.2 hc
  still := not_isStep (not_mem_decimal (by decide) (by decide)) (count_minus_decimal i)

def limitN : Identifier :=
  ⟨['n'], isVariable_of_all (by decide) rfl⟩

/-- One definition and a step keep the indentation; with a second definition or without the step it is lost. -/
theorem one_definition_indented_two_not : Indent "  " ∧
    (∃ t, convertForLoops "  for (var i = 0; i < 3; i++) \x7b" = .ok t ∧
      ∀ l ∈ lines t, (∃ c ∈ l, isBlank c = false) → "  " <+: l) ∧
    (∃ t, convertForLoops "  for (var i = 0, n = 3; i < 3; i++) \x7b" = .ok t ∧
      ¬∀ l ∈ lines t, (∃ c ∈ l, isBlank c = false) → "  " <+: l) ∧
    ∃ t, convertForLoops "  for (var i = 0; i < 3; ) \x7b" = .ok t ∧
      ¬∀ l ∈ lines t, (∃ c ∈ l, isBlank c = false) → "  " <+: l := by
  have hindent : Indent "  " := by
    intro c hc
    simpa using hc
  obtain ⟨t, ht, hiff⟩ := loop_lines_indented_iff hindent true [⟨counterI, .number 0⟩] counterI (.number 3) .increment
  obtain ⟨t', ht', hiff'⟩ := loop_lines_indented_iff hindent true [⟨counterI, .number 0⟩, ⟨limitN, .number 3⟩] counterI
    (.number 3) .increment
  obtain ⟨t'', ht'', hiff''⟩ := loop_lines_indented_iff hindent true [⟨counterI, .number 0⟩] counterI (.number 3)
    .nothing
  exact ⟨hindent, ⟨t, ht, hiff.mpr (.inr ⟨rfl, Nat.le_refl 1⟩)⟩, ⟨t', ht', fun h => absurd (hiff'.mp h) (by decide)⟩,
    t'', ht'', fun h => absurd (hiff''.mp h) (by decide)⟩

end Geoscript.Script
