import Geoscript.Proofs.Script.Assignment
import Geoscript.Proofs.Script.Name

/-! Quoted texts through a conversion: a declaration of one quoted text becomes an assignment of one. Most passes work
on raw text, so the quoted text is not safe from them. -/

namespace Geoscript.Script
open List Text Pattern
variable {v s t : Text}

/-! ### Forms that passes look for -/

def Method.form (m : Method) : Pattern :=
  if m.passing = .attributeReceiver then attributeOf m.spaced m.name.toList
  else callOf m.spaced m.name.toList

/-- The forms that are looked for before operators are replaced. -/
def readForms : List Pattern :=
  typeofUse :: functionVariable :: (Method.all.map Method.form ++
    GlobalFunction.all.map fun f => globalCall f.name.toList)

/-- The forms that are looked for after operators are replaced. -/
def writtenForms : List Pattern :=
  [functionAssignment, FunctionKind.callback.header, FunctionKind.standalone.header, forInside, whileInside,
    elseIfHeader, ifHeader, elseHeader, conditional, objectCall, .str "ee.Dictionary(**\x7b", arrayTest] ++
    StepOperator.all.map fun op => .lit op.symbol

/-- A text with none of the forms, and without a key in braces. -/
structure Inert (t : Text) : Prop where
  forms : ∀ p ∈ writtenForms, p.found t = false
  keys : ∀ m ∈ objectLiteral.occurrences t, ':' ∉ m.group 1

instance : Decidable (Inert t) :=
  decidable_of_iff ((writtenForms.all fun p => !p.found t) ∧
      ((objectLiteral.occurrences t).all fun m => !(m.group 1).contains ':'))
    ⟨fun h => ⟨by simpa using h.1, by simpa using h.2⟩, fun h => ⟨by simpa using h.forms, by simpa using h.keys⟩⟩

/-! ### Passes that find nothing -/

theorem convertTypeof_of_not_found (h : typeofUse.found t = false) : convertTypeof t = .ok (t, []) := by
  rw [convertTypeof, findAll, occurrences_of_not_found h]
  rfl

theorem markBlockComments_of_not_found (h : blockComment.found t = false) : markBlockComments t = t := by
  rw [markBlockComments, occurrences_of_not_found h]

theorem nameFunctions_of_not_found (h : functionVariable.found t = false) : nameFunctions t = t := by
  rw [nameFunctions, occurrences_of_not_found h]
  rfl

theorem Method.spacing (m : Method) : spacing? m.extra = some m.spaced := by
  unfold Method.extra
  cases m.spaced <;> rfl

theorem Method.convert_of_not_found {m : Method} (hname : isPlain m.name.toList)
    (h : m.form.found t = false) : m.convert t = .ok (t, false) := by
  have huses : m.uses t = .ok [] := by
    unfold Method.uses
    unfold Method.form at h
    split
    · next hpassing =>
      rw [if_pos hpassing] at h
      rw [attributeReceivers, attributeMatches, m.spacing, hname]
      simp only [occurrences_of_not_found h]
      rfl
    · next hpassing =>
      rw [if_neg hpassing] at h
      rw [methodCalls, callMatches, m.spacing, hname]
      simp only [occurrences_of_not_found h]
      rfl
  rw [Method.convert, huses]
  unfold Method.replacements Method.argumentsOf
  rfl

theorem GlobalFunction.convert_of_not_found {f : GlobalFunction} (hname : isPlain f.name.toList)
    (h : (globalCall f.name.toList).found t = false) : f.convert t = .ok (t, false) := by
  rw [GlobalFunction.convert, globalArguments, globalMatches, if_pos hname, occurrences_of_not_found h]
  rfl

theorem runPasses_of_idle {ps : List Pass} (h : ∀ p ∈ ps, p.run t = .ok (t, false)) : runPasses ps t = .ok (t, []) := by
  induction ps with
  | nil => rfl
  | cons p ps ih =>
    rw [forall_mem_cons] at h
    simp only [runPasses, h.1, ih h.2, bind, Except.bind]
    rfl

theorem convertMethods_of_not_found (h : ∀ p ∈ readForms, p.found t = false) : convertMethods t = .ok (t, []) := by
  have hmethods : Method.all.all (fun m => isPlain m.name.toList) := by decide +kernel
  have hfunctions : GlobalFunction.all.all (fun f => isPlain f.name.toList) := by decide +kernel
  have hidle : ∀ p ∈ methodPasses, p.run t = .ok (t, false) := by
    intro p hp
    rcases mem_append.mp hp with hp | hp
    · obtain ⟨m, hm, rfl⟩ := mem_map.mp hp
      refine Method.convert_of_not_found (all_eq_true.mp hmethods m hm) (h _ ?_)
      exact mem_cons_of_mem _ (mem_cons_of_mem _ (mem_append_left _ (mem_map_of_mem hm)))
    · obtain ⟨f, hf, rfl⟩ := mem_map.mp hp
      refine GlobalFunction.convert_of_not_found (all_eq_true.mp hfunctions f hf) (h _ ?_)
      exact mem_cons_of_mem _ (mem_cons_of_mem _ (mem_append_right _ (mem_map_of_mem hf)))
  rw [convertMethods, runPasses_of_idle hidle]
  rfl

theorem not_infix_of_not_found {o : Text} (h : (Pattern.lit o).found t = false) : ¬o <:+: t := by
  rintro ⟨x, z, rfl⟩
  obtain ⟨c, hover, hafter⟩ := @Cursor.exists_over (.start (x ++ o ++ z)) x (o ++ z) (append_assoc x o z)
  rw [found_of_matchAt hover fun depth => matchAt_isSome (lit_isSome hafter rfl)] at h
  cases h

theorem matchStart?_of_not_found {p : Pattern} (h : p.found t = false) : p.matchStart? t = none :=
  @searchFrom_none p _ false (.start t) (.start t) (search?_of_not_found h) [] (.refl _)

theorem convertFunctions_of_inert (hline : '\n' ∉ t) (h : Inert t) : convertFunctions t = pure t := by
  have hassignment : functionAssignment.found t = false := h.forms _ (by simp [writtenForms])
  have hcallback : FunctionKind.callback.header.matchStart? t = none :=
    matchStart?_of_not_found (h.forms _ (by simp [writtenForms]))
  have hstandalone : FunctionKind.standalone.header.matchStart? t = none :=
    matchStart?_of_not_found (h.forms _ (by simp [writtenForms]))
  rw [convertFunctions, nameExports_of_one hline hassignment, pure_bind, convertAll_of_one hline hcallback,
    pure_bind, convertAll_of_one hline hstandalone]

/-! ### The conversion of a declaration -/

/-- The declaration of a variable with a quoted text. -/
def declared (v s : Text) : Text :=
  assigned ("var " ++ v) s

theorem IsName.free (hv : IsName v) : Free ("var " ++ v) := by
  have hsigns : signs.all (fun c => !isWord c && c != '$') := by decide
  intro c hc hmem
  have hsign := all_eq_true.mp hsigns c hc
  rw [Bool.and_eq_true, Bool.not_eq_true', bne_iff_ne] at hsign
  rcases mem_append.mp hmem with hmem | hmem
  · exact (by decide : Free "var ") c hc hmem
  · exact hv.not_mem hsign.1 hsign.2 hmem

/-- No pass finds one of its forms in the declaration, neither before nor after operators are replaced and the
braces that close nothing are dropped, and the quoted text does not repeat what is declared. -/
structure Bare (v s : Text) : Prop where
  read : ∀ p ∈ readForms, p.found (declared v s) = false
  names : ∀ m ∈ declaration.occurrences (declared v s), has ("var" ++ m.group 1) s = false
  written : ∀ t, dropVar (declared v s) = .ok t → Inert (markBlockComments (convertOperators t)) ∧
    Inert (dropUnmatched (markBlockComments (convertOperators t)))

theorem bare_iff : Bare v s ↔ (readForms.all fun p => !p.found (declared v s)) ∧
    ((declaration.occurrences (declared v s)).all fun m => !has ("var" ++ m.group 1) s) ∧
    ((dropVar (declared v s)).toOption.all fun t => decide (Inert (markBlockComments (convertOperators t)) ∧
      Inert (dropUnmatched (markBlockComments (convertOperators t))))) := by
  constructor
  · rintro ⟨hread, hnames, hwritten⟩
    refine ⟨by simpa using hread, by simpa using hnames, ?_⟩
    cases hdrop : dropVar (declared v s) with
    | error e => rfl
    | ok t => simpa only [Except.toOption, Option.all_some, decide_eq_true_eq] using hwritten t hdrop
  · rintro ⟨hread, hnames, hwritten⟩
    refine ⟨by simpa using hread, by simpa using hnames, fun t hdrop => ?_⟩
    simpa only [hdrop, Except.toOption, Option.all_some, decide_eq_true_eq] using hwritten

instance : Decidable (Bare v s) :=
  decidable_of_iff _ bare_iff.symm

def tidy (s : Text) : Text :=
  without (· == ';') (dropUnmatched (markBlockComments s))

def mend (s : Text) : Text :=
  tidy (convertOperators s)

theorem Quotable.sublist {u : Text} (hs : Quotable s) (h : u.Sublist s) : Quotable u :=
  ⟨fun hc => hs.1 (h.subset hc), fun hc => hs.2.1 (h.subset hc), fun hc => hs.2.2.1 (h.subset hc),
    fun hc => hs.2.2.2 (h.subset hc)⟩

theorem Quotable.tidy (hs : Quotable s) : Quotable (tidy s) :=
  (hs.markBlockComments.sublist (dropUnmatchedFrom_sublist 0 _)).sublist filter_sublist

theorem Quotable.mend (hs : Quotable s) : Quotable (mend s) :=
  (mild_convertOperators.quotable s hs).tidy

theorem convertExpressions_assigned {y : Text} (hy : Free y) (hs : Quotable s) (h : Inert (assigned y s)) :
    convertExpressions (assigned y s) = .ok (assigned y s) := by
  have hline := not_mem_assigned hy hs
  have hconditional := convertConditionals_of_one hline (h.forms conditional (by simp [writtenForms]))
  have hattributes : convertAttributes (assigned y s) = .ok (assigned y s) := by
    rw [assigned_eq]
    exact convertAttributes_quoted hy.quotable_target (by simp [hy '.' (by decide)]) hs
  have hcalls := convertObjectCalls_of_not_found (h.forms objectCall (by simp [writtenForms]))
    (not_infix_of_not_found (h.forms (.str "ee.Dictionary(**\x7b") (by simp [writtenForms])))
  have harrays := convertArrayTests_of_not_found (h.forms arrayTest (by simp [writtenForms]))
  simp only [convertExpressions, hconditional, quoteKeys_of_no_key h.keys, hattributes, hcalls, harrays, bind,
    Except.bind]
  rfl

theorem without_assigned {y : Text} (hy : Free y) : without (· == ';') (assigned y s) =
    (y ++ [' ', '=', ' ']) ++ '"' :: (without (· == ';') s ++ ['"']) := by
  have hkept : y.filter (fun c => !c == ';') = y := by
    rw [filter_eq_self]
    intro c hc
    have hne : c ≠ ';' := fun h => hy ';' (by decide) (h ▸ hc)
    simp [hne]
  simp [without, assigned, hkept]

theorem convert_statement {y : Text} (hy : Free y) (hs : Quotable s) (h : Inert (assigned y s)) :
    convertForLoops (assigned y s) = .ok (assigned y s) ∧ convertWhileLoops (assigned y s) = .ok (assigned y s) ∧
      convertSteps (assigned y s) = .ok (assigned y s) ∧
      convertBranches (assigned y s) = assigned y (dropUnmatched s) := by
  have hline := not_mem_assigned hy hs
  have hfor := h.forms forInside (by simp [writtenForms])
  have hwhile := h.forms whileInside (by simp [writtenForms])
  refine ⟨convertForLoops_of_one hline (not_opensHeader_assigned hy) hfor,
    convertWhileLoops_of_one hline hwhile, convertSteps_of_one hline fun op hop => ?_, ?_⟩
  · rw [← Bool.not_eq_true, has_iff]
    exact not_infix_of_not_found (h.forms _ (mem_append_right _ (mem_map_of_mem hop)))
  · rw [convertBranches_of_not_found (h.forms _ (by simp [writtenForms])) (h.forms _ (by simp [writtenForms]))
      (h.forms _ (by simp [writtenForms])), dropUnmatched_assigned hy]

theorem converted_declared (hv : IsName v) (hs : Quotable s) (h : Bare v s) :
    ∃ y part, Free y ∧ '"' ∉ part ∧ converted (declared v s) =
      .ok (withPreamble [[], [], part, []] ((y ++ [' ', '=', ' ']) ++ '"' :: (mend s ++ ['"']))) := by
  obtain ⟨y₁, hy₁, hdrop⟩ := dropVar_assigned hv.free hs fun m hm => by
    rw [← has_iff, Bool.not_eq_true]
    exact h.names m hm
  obtain ⟨hinert, hinert'⟩ := h.written _ hdrop
  have hy := mild_convertOperators.free y₁ hy₁
  have hs₁ := mild_convertOperators.quotable s hs
  rw [convertOperators_assigned, markBlockComments_assigned hy hs₁] at hinert hinert'
  rw [dropUnmatched_assigned hy] at hinert'
  have hs₂ := hs₁.markBlockComments
  have hs₃ : Quotable (dropUnmatched (markBlockComments (convertOperators s))) :=
    hs₂.sublist (dropUnmatchedFrom_sublist 0 _)
  have hline := not_mem_assigned hy hs₂
  have hfunction : replace "\nfunction " "\n\nfunction "
      (assigned (convertOperators y₁) (markBlockComments (convertOperators s))) =
      assigned (convertOperators y₁) (markBlockComments (convertOperators s)) :=
    replace_of_not_occurs (by simp) fun hin => hline (hin.subset (by simp))
  obtain ⟨hfor, hwhile, hsteps, hbranches⟩ := convert_statement hy hs₂ hinert
  refine ⟨convertOperators y₁, exportsFor (assigned (convertOperators y₁)
    (dropUnmatched (markBlockComments (convertOperators s)))), hy, ?_, ?_⟩
  · rw [exportsFor]
    split
    · decide +kernel
    · exact not_mem_nil
  · have hread : ∀ p ∈ readForms, p.found (assigned ("var " ++ v) s) = false := h.read
    have htypeof := convertTypeof_of_not_found (hread typeofUse (by simp [readForms]))
    have hnamed := nameFunctions_of_not_found (hread functionVariable (by simp [readForms]))
    have hjoined := joinStatements_assigned hy hs₂
    have hfunctions : convertFunctions (assigned (convertOperators y₁) (markBlockComments (convertOperators s))) =
        fun names => .ok (assigned (convertOperators y₁) (markBlockComments (convertOperators s)), names) :=
      convertFunctions_of_inert hline hinert
    have hmatched : dropUnmatched (assigned (convertOperators y₁)
        (dropUnmatched (markBlockComments (convertOperators s)))) = assigned (convertOperators y₁)
        (dropUnmatched (markBlockComments (convertOperators s))) := by
      rw [dropUnmatched_assigned hy]
      exact congrArg _ (dropUnmatchedFrom_idem 0 _)
    have hexpressions := convertExpressions_assigned hy hs₃ hinert'
    have hplus := convertPlus_quoted (by simp) hy.quotable_target (by simp [hy '+' (by decide)])
      (hs₃.sublist (filter_sublist (p := fun c => !(c == ';'))))
    rw [← without] at hplus
    simp only [converted, convert, declared, htypeof, convertMethods_of_not_found hread, hnamed, hdrop,
      convertOperators_assigned, markBlockComments_assigned hy hs₁, hjoined, hfunction, hfunctions, hfor, hwhile,
      hsteps, hbranches, hmatched, hexpressions, without_assigned hy, hplus, bind, StateT.bind, Except.bind, liftM,
      monadLift, MonadLift.monadLift, StateT.lift, pure, Except.pure, StateT.run', Functor.map,
      Except.map]
    rfl

/-! ### When a quoted text is kept -/

theorem countP_markBlockComments (hline : '\n' ∉ t) :
    (markBlockComments t).countP droppable ≤ t.countP droppable ∧ (blockComment.found t →
      (markBlockComments t).countP droppable < t.countP droppable) := by
  have hlt := @countP_replace_lt ['/', '*'] ['#'] t droppable (by decide)
  rw [markBlockComments_of_one hline]
  split
  · next hfound =>
    obtain ⟨x, u, z, rfl⟩ := found_blockComment_iff.mp hfound
    exact ⟨hlt.1, fun _ => hlt.2 ⟨x, u ++ '*' :: '/' :: z, by simp⟩⟩
  · next hfound => exact ⟨Nat.le_refl _, fun h => absurd h hfound⟩

theorem countP_without (t : Text) : (without (· == ';') t).countP droppable ≤ t.countP droppable ∧
    (';' ∈ t → (without (· == ';') t).countP droppable < t.countP droppable) := by
  have hle : ∀ t : Text, (without (· == ';') t).countP droppable ≤ t.countP droppable :=
    fun t => (filter_sublist (l := t)).countP_le
  refine ⟨hle t, fun h => ?_⟩
  obtain ⟨x, z, rfl⟩ := append_of_mem h
  have hx := hle x
  have hz := hle z
  have hsemi : droppable ';' := by decide
  rw [without] at hx hz ⊢
  rw [filter_append, filter_cons_of_neg (by decide), countP_append, countP_append, countP_cons_of_pos hsemi]
  omega

theorem without_eq_self (h : ';' ∉ t) : without (· == ';') t = t := by
  rw [without, filter_eq_self]
  intro c hc
  have hne : c ≠ ';' := fun heq => h (heq ▸ hc)
  simp [hne]

theorem tidy_eq_self (hline : '\n' ∉ t) (h : (tidy t).countP droppable = t.countP droppable) :
    blockComment.found t = false ∧ dropUnmatched t = t ∧ ';' ∉ t ∧ tidy t = t := by
  obtain ⟨hmark, hcomment⟩ := countP_markBlockComments hline
  have hle : (dropUnmatched (markBlockComments t)).countP droppable ≤ (markBlockComments t).countP droppable :=
    (dropUnmatchedFrom_sublist 0 _).countP_le
  obtain ⟨hsemi, -⟩ := countP_without (dropUnmatched (markBlockComments t))
  rw [← tidy] at hsemi
  have hcomment : blockComment.found t = false := by
    rw [← Bool.not_eq_true]
    intro hfound
    have := hcomment hfound
    omega
  have htidy : tidy t = without (· == ';') (dropUnmatched t) := by
    rw [tidy, markBlockComments_of_not_found hcomment]
  obtain ⟨hsemi, hsemi'⟩ := countP_without (dropUnmatched t)
  have hbraces : dropUnmatched t = t := by
    refine (dropUnmatchedFrom_eq_or_lt 0 t).resolve_right fun hlt => ?_
    rw [← dropUnmatched] at hlt
    rw [htidy] at h
    omega
  rw [hbraces] at hsemi' htidy
  have hsemi : ';' ∉ t := by
    intro hmem
    have := hsemi' hmem
    rw [htidy] at h
    omega
  exact ⟨hcomment, hbraces, hsemi, htidy.trans (without_eq_self hsemi)⟩

/-- The operators keep the number of droppable characters, so no later pass can make up for what they change. -/
theorem mend_eq_self_iff (hs : Quotable s) : mend s = s ↔
    convertOperators s = s ∧ blockComment.found s = false ∧ dropUnmatched s = s ∧ ';' ∉ s := by
  constructor
  · intro h
    have hcount : (tidy (convertOperators s)).countP droppable = (convertOperators s).countP droppable :=
      (congrArg (countP droppable) h).trans (mild_convertOperators.count s).symm
    obtain ⟨hcomment, hbraces, hsemi, htidy⟩ :=
      tidy_eq_self (mild_convertOperators.quotable s hs).2.2.2 hcount
    have hself : convertOperators s = s := htidy.symm.trans h
    rw [hself] at hcomment hbraces hsemi
    exact ⟨hself, hcomment, hbraces, hsemi⟩
  · rintro ⟨hoperators, hcomment, hbraces, hsemi⟩
    rw [mend, hoperators, tidy, markBlockComments_of_not_found hcomment, hbraces, without_eq_self hsemi]

/-- The definitions in front of a script have no double quote, so the quoted text is the one of the script. -/
theorem quoted_infix_iff {a part u : Text} (ha : '"' ∉ a) (hpart : '"' ∉ part) (hs : '"' ∉ s) (hu : '"' ∉ u) :
    '"' :: (s ++ ['"']) <:+: withPreamble [[], [], part, []] (a ++ '"' :: (u ++ ['"'])) ↔ u = s := by
  have hparts : ∀ t ∈ imports :: [[], part, [], []], '"' ∉ t := by
    simp only [forall_mem_cons]
    exact ⟨by decide +kernel, not_mem_nil, hpart, not_mem_nil, not_mem_nil, forall_mem_nil _⟩
  have hfront : '"' ∉ join ['\n'] (imports :: [[], part, [], []]) ++ '\n' :: a := by
    intro h
    rcases mem_append.mp h with h | h
    · rcases mem_join h with h | ⟨t, ht, h⟩
      · exact absurd h (by decide)
      · exact hparts t ht h
    · rcases mem_cons.mp h with h | h
      · exact absurd h (by decide)
      · exact ha h
  have hout : withPreamble [[], [], part, []] (a ++ '"' :: (u ++ ['"'])) =
      (join ['\n'] (imports :: [[], part, [], []]) ++ '\n' :: a) ++ '"' :: (u ++ '"' :: []) := by
    simp [withPreamble]
  rw [hout]
  constructor
  · rintro ⟨x, z, h⟩
    rw [append_assoc, cons_append, append_assoc, singleton_append] at h
    rcases cut_eq_or_behind hfront h with ⟨-, h⟩ | ⟨mid, -, h⟩
    · rcases cut_eq_or_behind hu h with ⟨h, -⟩ | ⟨mid, -, h⟩
      · exact h.symm
      · simp at h
    · rcases cut_eq_or_behind hu h.symm with ⟨-, h⟩ | ⟨mid', -, h⟩
      · simp at h
      · simp at h
  · rintro rfl
    exact ⟨_, [], append_nil _⟩

/-- A quoted text without quotes, backslashes and line breaks is kept by the conversion of its declaration exactly
if it has no operator or constant to be replaced, no block comment, no closing brace that closes nothing and no
semicolon, as long as no pass finds one of its forms in the declaration. -/
theorem quoted_text_kept_iff (hv : IsName v) (hs : Quotable s) (h : Bare v s) :
    ∃ out, converted (declared v s) = .ok out ∧ ('"' :: (s ++ ['"']) <:+: out ↔
      convertOperators s = s ∧ blockComment.found s = false ∧ dropUnmatched s = s ∧ ';' ∉ s) := by
  obtain ⟨y, part, hy, hpart, hout⟩ := converted_declared hv hs h
  exact ⟨_, hout, (quoted_infix_iff hy.quotable_target.1 hpart hs.1 hs.mend.1).trans (mend_eq_self_iff hs)⟩

/-- A dataset's name is kept; a text that reads as a constant is not. -/
theorem name_kept_constant_not :
    (∃ out, converted (declared ['v'] "LANDSAT 8: B10") = .ok out ∧ "\"LANDSAT 8: B10\"" <:+: out) ∧
      ∃ out, converted (declared ['v'] "true") = .ok out ∧ ¬"\"true\"" <:+: out := by
  have hv : IsName ['v'] := ⟨by decide, by simp; decide⟩
  constructor
  · obtain ⟨out, hout, hiff⟩ :=
      @quoted_text_kept_iff ['v'] "LANDSAT 8: B10" hv (by decide) (by decide +kernel)
    exact ⟨out, hout, hiff.mpr (by decide +kernel)⟩
  · obtain ⟨out, hout, hiff⟩ := @quoted_text_kept_iff ['v'] "true" hv (by decide) (by decide +kernel)
    exact ⟨out, hout, fun h => absurd (hiff.mp h).1 (by decide +kernel)⟩

end Geoscript.Script
