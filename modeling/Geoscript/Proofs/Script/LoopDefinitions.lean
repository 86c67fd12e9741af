import Geoscript.Proofs.Script.LoopValues

/-! The definitions of a loop header, with commas between them, and what is left of them without the word that
declares and without blanks (`fields_bareDefinition`). -/

namespace Geoscript.Script
open List Text Pattern

/-! ### Definitions -/

/-- The signs that part a header, and those of conditions. -/
def partingSigns : Text :=
  ";,\n\x7b\x7d<>!"

/-- What can stand to the right of a definition or a condition: text whose parentheses are not nested, without the
signs of a header and without steps. -/
structure Term where
  text : Text
  shallow : Shallow text
  unsigned : ∀ c ∈ text, c ∉ '=' :: partingSigns
  still : isStep text = false

structure Assignment where
  name : Identifier
  value : Term

def Assignment.written (d : Assignment) : Text :=
  d.name.text ++ " = " ++ d.value.text

/-- Definitions with commas between them, with a word before the first one. -/
def definitionsPart (word : Text) (ds : List Assignment) : Text :=
  word ++ join ", " (ds.map Assignment.written)

variable {t word name : Text} {names : List Text} {ds : List Assignment} {c : Char}

theorem Term.not_mem (b : Term) (c : Char) (hc : c ∈ '=' :: partingSigns) : c ∉ b.text := fun h =>
  b.unsigned c h hc

/-! ### Parts that neither step nor compare -/

theorem isStep_append_cons {x y : Text} (hplus : c ≠ '+') (hminus : c ≠ '-') :
    isStep (x ++ c :: y) = (isStep x || isStep y) := by
  have hcut (o : Text) (ho : c ∉ o) : has o (x ++ c :: y) = (has o x || has o y) := by
    rw [Bool.eq_iff_iff, has_iff, infix_append_cons_iff ho, Bool.or_eq_true, has_iff, has_iff]
  rw [isStep, hcut "++" (by simp [hplus]), hcut "--" (by simp [hminus])]
  simp only [isStep, Bool.or_assoc, Bool.or_left_comm]

structure Defining (t : Text) : Prop where
  shallow : Shallow t
  unsigned : ∀ c ∈ t, c ∉ partingSigns
  still : isStep t = false
  plain : isCondition t = false

theorem Defining.of_madeOf (h : MadeOf " ".toList t) : Defining t where
  shallow := .of_not_mem (h.not_mem '(' rfl) (h.not_mem ')' rfl)
  unsigned c hc hsign := by
    have hsigns : partingSigns.all (fun c => !isNameChar c && !" ".toList.contains c) := by decide
    have hother := all_eq_true.mp hsigns c hsign
    rw [Bool.and_eq_true, Bool.not_eq_true', Bool.not_eq_true'] at hother
    exact h.not_mem c (by rw [hother.1, hother.2]; rfl) hc
  still := not_isStep (h.not_mem '+' rfl)
    (by rw [count_eq_zero.mpr (h.not_mem '-' rfl)]; exact Nat.zero_le 1)
  plain := not_isCondition (h.not_mem '<' rfl) (h.not_mem '>' rfl) (h.not_mem '!' rfl)
    (by rw [count_eq_zero.mpr (h.not_mem '=' rfl)]; exact Nat.zero_le 1)

theorem Defining.assignment (hword : MadeOf " " word) (d : Assignment) : Defining (word ++ d.written) := by
  have hleft : Defining (word ++ d.name.text ++ [' ']) :=
    .of_madeOf ((hword.append (d.name.isVariable.madeOf _)).append (by decide))
  have hcut : word ++ d.written = (word ++ d.name.text ++ [' ']) ++ '=' :: ([] ++ ' ' :: d.value.text) := by
    simp [Assignment.written]
  have hequals : List.count '=' (word ++ d.written) ≤ 1 := by
    have hname : '=' ∉ word ++ d.name.text ++ [' '] :=
      ((hword.append (d.name.isVariable.madeOf _)).append (by decide)).not_mem '=' rfl
    rw [hcut, count_append, count_cons_self, count_eq_zero.mpr hname]
    simp [count_eq_zero.mpr (d.value.not_mem '=' (by decide))]
  have hright : isStep ([] ++ ' ' :: d.value.text) = false := by
    rw [isStep_append_cons (by decide) (by decide), d.value.still]
    rfl
  have hsigns : ∀ c ∈ word ++ d.written, c ∉ partingSigns := by
    intro c hc
    rw [hcut, mem_append, mem_cons, nil_append, mem_cons] at hc
    rcases hc with hc | rfl | rfl | hc
    · exact hleft.unsigned c hc
    · decide
    · decide
    · exact fun hsign => d.value.unsigned c hc (mem_cons_of_mem '=' hsign)
  refine ⟨?_, hsigns, ?_, ?_⟩
  · rw [hcut]
    exact hleft.shallow.append (.char (by decide) (by decide) (.char (by decide) (by decide) d.value.shallow))
  · rw [hcut, isStep_append_cons (by decide) (by decide), hleft.still, hright]
    rfl
  · exact not_isCondition (fun h => hsigns _ h (by decide)) (fun h => hsigns _ h (by decide))
      (fun h => hsigns _ h (by decide)) hequals

/-! ### The parts between commas -/

def definitionPieces (word : Text) : List Assignment → List Text
  | [] => [word]
  | d :: ds => (word ++ d.written) :: ds.map fun e => ' ' :: e.written

theorem definitionsPart_eq (word : Text) (ds : List Assignment) :
    definitionsPart word ds = join [','] (definitionPieces word ds) := by
  induction ds generalizing word with
  | nil => exact append_nil word
  | cons d ds ih =>
    cases ds with
    | nil => rfl
    | cons e ds =>
      show word ++ (d.written ++ ", " ++ join ", " ((e :: ds).map Assignment.written)) =
        (word ++ d.written) ++ [','] ++ join [','] (definitionPieces [' '] (e :: ds))
      rw [← ih [' '], definitionsPart]
      simp

theorem defining_of_mem (hword : MadeOf " " word) (ht : t ∈ definitionPieces word ds) : Defining t := by
  cases ds with
  | nil =>
    obtain rfl := mem_singleton.mp ht
    exact .of_madeOf hword
  | cons d ds =>
    rcases mem_cons.mp ht with rfl | ht
    · exact .assignment hword d
    · obtain ⟨e, -, rfl⟩ := mem_map.mp ht
      exact @Defining.assignment [' '] (by decide) e

theorem fields_definitionsPart (hword : MadeOf " " word) :
    fields ',' (definitionsPart word ds) = definitionPieces word ds := by
  have hne : definitionPieces word ds ≠ [] := by
    cases ds <;> exact cons_ne_nil _ _
  rw [definitionsPart_eq, fields_join hne fun t ht hc => (defining_of_mem hword ht).unsigned ',' hc (by decide)]

theorem has_join_false {o : Text} {ts : List Text} (ho : o ≠ []) (hc : c ∉ o) (h : ∀ t ∈ ts, has o t = false) :
    has o (join [c] ts) = false := by
  rw [← Bool.not_eq_true, has_iff]
  intro hpart
  obtain ⟨t, ht, hin⟩ := infix_join ho hc hpart
  have hfalse := h t ht
  rw [has_iff.mpr hin] at hfalse
  cases hfalse

theorem isStep_definitionsPart (hword : MadeOf " " word) : isStep (definitionsPart word ds) = false := by
  have hstill : ∀ t ∈ definitionPieces word ds, has "++" t = false ∧ has "--" t = false := fun t ht =>
    Bool.or_eq_false_iff.mp (defining_of_mem hword ht).still
  rw [isStep, definitionsPart_eq, has_join_false (by decide) (by decide) fun t ht => (hstill t ht).1,
    has_join_false (by decide) (by decide) fun t ht => (hstill t ht).2]
  rfl

theorem isCondition_definitionsPart (hword : MadeOf " " word) : isCondition (definitionsPart word ds) = false := by
  rw [isCondition, any_eq_false]
  intro op hop
  rw [Bool.not_eq_true, definitionsPart_eq]
  refine has_join_false (by cases op <;> decide) (by cases op <;> decide) fun t ht => ?_
  have hplain := (defining_of_mem hword ht).plain
  rw [isCondition, any_eq_false] at hplain
  exact Bool.not_eq_true _ ▸ hplain op hop

theorem Shallow.join {ts : List Text} (h : ∀ t ∈ ts, Shallow t) : Shallow (join [','] ts) := by
  induction ts with
  | nil => exact .nil
  | cons t ts ih =>
    rw [forall_mem_cons] at h
    cases ts with
    | nil => exact h.1
    | cons u ts => exact (h.1.append (.char (by decide) (by decide) .nil)).append (ih h.2)

theorem unsigned_definitionsPart (hword : MadeOf " " word) (hc : c ∈ definitionsPart word ds)
    (hcomma : c ≠ ',') : c ∉ partingSigns := by
  rw [definitionsPart_eq] at hc
  rcases mem_join hc with hc | ⟨t, ht, hc⟩
  · exact absurd (mem_singleton.mp hc) hcomma
  · exact (defining_of_mem hword ht).unsigned c hc

/-! ### The definitions without their word -/

def IsDeclared (name : Text) : Prop :=
  ∃ blanks n : Text, name = blanks ++ n ∧ blanks ≠ [] ∧ n ≠ [] ∧ (∀ c ∈ blanks, isSpace c) ∧
    ∀ c ∈ n, nameSet.has c

theorem isDeclared_of_mem (h : name ∈ (declaration.occurrences t).map (·.group 1)) : IsDeclared name := by
  obtain ⟨m, hm, rfl⟩ := mem_map.mp h
  obtain ⟨blanks, n, hname, hblanks, hn, hspace, hset, -⟩ := declaration_name hm
  exact ⟨blanks, n, hname, hblanks, hn, hspace, hset⟩

theorem IsDeclared.not_mem (h : IsDeclared name) (c : Char) (hspace : isSpace c = false)
    (hset : nameSet.has c = false) : c ∉ name := by
  obtain ⟨blanks, n, rfl, -, -, hblanks, hn⟩ := h
  intro hc
  rcases mem_append.mp hc with hc | hc
  · rw [hblanks c hc] at hspace
    cases hspace
  · rw [hn c hc] at hset
    cases hset

/-- No declaration stands before the equals sign of a definition that another one precedes: a blank is the first
character there or the last. -/
theorem IsDeclared.not_before_equals (h : IsDeclared name) {v : Text} (hv : IsVariable v) :
    ¬"var".toList ++ name <:+: ' ' :: (v ++ [' ']) := by
  rintro ⟨x, y, hxy⟩
  obtain ⟨blanks, n, rfl, hblanks, hn, hspace, -⟩ := h
  obtain ⟨blank, blanks, rfl⟩ := exists_cons_of_ne_nil hblanks
  cases x with
  | nil => exact absurd (cons.inj hxy).1 (by decide)
  | cons d x =>
    have hrest : (x ++ "var".toList) ++ blank :: (blanks ++ n ++ y) = v ++ [' '] := by
      rw [← (cons.inj hxy).2]
      simp
    have hblank : blank = ' ' := by
      have hmem : blank ∈ v ++ [' '] := by
        rw [← hrest]
        simp
      rcases mem_append.mp hmem with hmem | hmem
      · have hname := hv.not_isSpace blank hmem
        rw [hspace blank mem_cons_self] at hname
        cases hname
      · exact mem_singleton.mp hmem
    rw [hblank] at hrest
    exact ne_of_blank_at_end (hv.not_mem ' ' rfl) (by simp [hn]) hrest

theorem fields_dropNames (h : ∀ name ∈ names, IsDeclared name) (t : Text) :
    fields ',' (dropNames names t) = (fields ',' t).map (dropNames names) := by
  induction names generalizing t with
  | nil => exact (map_id _).symm
  | cons name names ih =>
    rw [forall_mem_cons] at h
    have hcomma := h.1.not_mem ',' rfl rfl
    have hstep : fields ',' (dropName name t) = (fields ',' t).map (dropName name) := by
      unfold dropName
      split
      · exact (map_id _).symm
      · refine fields_replace (by simp) (by simp [hcomma]) (fun hc => ?_) t
        exact hcomma (mem_of_mem_filter hc)
    show fields ',' (dropNames names (dropName name t)) = _
    rw [ih h.2, hstep, map_map]
    rfl

theorem dropNames_assignment (h : ∀ name ∈ names, IsDeclared name) {v : Text} (hv : IsVariable v) (y : Text) :
    ∃ y', dropNames names (' ' :: (v ++ [' ']) ++ '=' :: y) = ' ' :: (v ++ [' ']) ++ '=' :: y' := by
  induction names generalizing y with
  | nil => exact ⟨y, rfl⟩
  | cons name names ih =>
    rw [forall_mem_cons] at h
    have hequals := h.1.not_mem '=' rfl rfl
    have hstep : ∃ z, dropName name (' ' :: (v ++ [' ']) ++ '=' :: y) = ' ' :: (v ++ [' ']) ++ '=' :: z := by
      unfold dropName
      split
      · exact ⟨y, rfl⟩
      · rw [replace_append_cons (by simp) (by simp [hequals]),
          replace_of_not_occurs (by simp) (h.1.not_before_equals hv)]
        exact ⟨_, rfl⟩
    obtain ⟨z, hz⟩ := hstep
    show ∃ y', dropNames names (dropName name (' ' :: (v ++ [' ']) ++ '=' :: y)) = _
    rw [hz]
    exact ih h.2 z

theorem mem_dropNames (h : c ∈ dropNames names t) : c ∈ t ∨ ∃ name ∈ names, c ∈ name := by
  induction names generalizing t with
  | nil => exact .inl h
  | cons name names ih =>
    rcases ih (t := dropName name t) h with h | ⟨n, hn, h⟩
    · unfold dropName at h
      split at h
      · exact .inl h
      · rcases mem_replace (by simp) h with h | h
        · exact .inl h
        · exact .inr ⟨name, mem_cons_self, mem_of_mem_filter h⟩
    · exact .inr ⟨n, mem_cons_of_mem name hn, h⟩

theorem mem_bareDefinition (h : c ∈ bareDefinition t) (hset : nameSet.has c = false) : c ∈ t ∧ isSpace c = false := by
  have hspace : isSpace c = false := by
    simpa using (mem_filter.mp h).2
  rcases mem_dropNames (mem_of_mem_filter h) with h | ⟨name, hname, h⟩
  · exact ⟨h, hspace⟩
  · exact absurd h ((isDeclared_of_mem hname).not_mem c hspace hset)

/-- The definitions between commas: the first one as it comes, and each other one with its name at the start. -/
theorem fields_bareDefinition (hword : MadeOf " " word) (ds : List Assignment) :
    ∃ first rest, fields ',' (bareDefinition (definitionsPart word ds)) = first :: rest ∧
      rest.length = ds.length - 1 ∧ ∀ l ∈ rest, ∃ (v : Identifier) (y : Text), l = v.text ++ '=' :: y := by
  have hnames : ∀ name ∈ (declaration.occurrences (definitionsPart word ds)).map (·.group 1), IsDeclared name :=
    fun name => isDeclared_of_mem
  rw [bareDefinition, fields_without rfl, fields_dropNames hnames, fields_definitionsPart hword]
  cases ds with
  | nil => exact ⟨_, [], rfl, rfl, forall_mem_nil _⟩
  | cons d ds =>
    refine ⟨_, _, rfl, by simp, fun l hl => ?_⟩
    simp only [map_map, mem_map, Function.comp_apply] at hl
    obtain ⟨e, -, rfl⟩ := hl
    have hcut : ' ' :: e.written = ' ' :: (e.name.text ++ [' ']) ++ '=' :: (' ' :: e.value.text) := by
      simp [Assignment.written]
    obtain ⟨y, hy⟩ := dropNames_assignment hnames e.name.isVariable (' ' :: e.value.text)
    refine ⟨e.name, without isSpace y, ?_⟩
    rw [hcut, hy, without_append]
    show without isSpace (e.name.text ++ [' ']) ++ '=' :: without isSpace y = _
    rw [without_append, without_isSpace e.name.isVariable.not_isSpace]
    exact congrArg (· ++ '=' :: without isSpace y) (append_nil _)

end Geoscript.Script
