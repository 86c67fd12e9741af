import Mathlib.Data.List.Infix
import Geoscript.Proofs.Pattern.Accept
import Geoscript.Proofs.Text.Ink
import Geoscript.Script.Function.Definition

/-! The header of a function handed to a call, as in `v = r.map(function(p) {`. A name is read only where the receiver
has the word `function` with a letter behind it (`CallHeader.NamesFunction`), and it ends with the method then. -/

namespace Geoscript.Script
open List Text Pattern
variable {u rest x u₁ u₂ u₃ z y q g a p w : Text} {d : Char} {R : Nat → Cursor → Cursor → Prop} {cur : Cursor}
  {ps : List Text}

def symbolChar (c : Char) : Bool :=
  !(isBlank c || ['(', ')', '{', '}', '=', ','].contains c)

/-- A text without blanks, brackets, equals signs and commas. -/
def IsSymbol (t : Text) : Prop :=
  t ≠ [] ∧ ∀ c ∈ t, symbolChar c

instance (t : Text) : Decidable (IsSymbol t) :=
  decidable_of_iff (t ≠ [] ∧ t.all symbolChar) (and_congr_right' all_eq_true)

def Blanks (u : Text) : Prop :=
  ∀ c ∈ u, isSpace c

def Solid (u : Text) : Prop :=
  ∀ c ∈ u, isSpace c = false

variable {t : Text} {c : Char}

theorem IsSymbol.not_mem (h : IsSymbol t) (hc : symbolChar c = false) : c ∉ t := fun hmem =>
  Bool.false_ne_true (hc.symm.trans (h.2 c hmem))

theorem isBlank_of_symbolChar (h : symbolChar c) : isBlank c = false := by
  rw [symbolChar, Bool.not_eq_true', Bool.or_eq_false_iff] at h
  exact h.1

theorem isSpace_of_symbolChar (h : symbolChar c) : isSpace c = false :=
  (Bool.or_eq_false_iff.mp (isBlank_of_symbolChar h)).1

theorem isSpace_of_space (h : ∀ c ∈ u, CharSet.space.has c) : Blanks u := by
  simpa [Blanks, CharSet.space, CharSet.has, CharClass.covers] using h

theorem isSpace_of_nonSpace (h : ∀ c ∈ u, CharSet.nonSpace.has c) : Solid u := by
  simpa [Solid, nonSpace_has] using h

/-- A call of a method that runs a function through what it is called on, up to the brace. -/
structure CallHeader where
  target : Text
  receiver : Text
  parameter : Text
  isSymbol_target : IsSymbol target
  isSymbol_receiver : IsSymbol receiver
  isSymbol_parameter : IsSymbol parameter

namespace CallHeader
variable {h : CallHeader}

def subject (h : CallHeader) : Text :=
  h.target ++ " = " ++ h.receiver

def text (h : CallHeader) : Text :=
  h.subject ++ ".map(function(" ++ h.parameter ++ ") "

/-- The receiver has the word `function` with one of the first 128 characters behind it. -/
def NamesFunction (h : CallHeader) : Prop :=
  ∃ c, ascii.has c ∧ "function".toList ++ [c] <:+: h.receiver ++ ['.']

end CallHeader

/-- What stands between the receiver and a parenthesis of a header, without the dot. -/
def CallTail (rest : Text) : Prop :=
  rest = "map" ∨ rest = "map(function"

/-- A method with the end of its receiver, and possibly with the word `function` behind it. -/
def MethodName (t : Text) : Prop :=
  ∃ z rest : Text, (∀ c ∈ z, symbolChar c) ∧ CallTail rest ∧ t = z ++ '.' :: rest

/-! ### The word in the receiver -/

theorem CallTail.nonblank (h : CallTail rest) : Solid ('.' :: rest) := by
  have hall : (".map(function".toList).all (fun c => !isSpace c) := by decide
  have hlong : Solid (".map(function".toList) := by
    simpa only [Solid, all_eq_true, Bool.not_eq_true'] using hall
  rcases h with rfl | rfl
  · exact fun c hc => hlong c (mem_append_left "(function".toList hc)
  · exact hlong

theorem CallTail.not_infix_dropLast (h : CallTail rest) : ¬"function" <:+: rest.dropLast := by
  intro hin
  rcases h with rfl | rfl <;> exact absurd (has_iff.mpr hin) (by decide)

theorem not_mem_word_blanks (hu : Blanks u) (hword : c ∉ "function".toList) (hc : isSpace c = false) :
    c ∉ "function" ++ u := by
  rw [mem_append, not_or]
  exact ⟨hword, fun hmem => Bool.false_ne_true (hc.symm.trans (hu c hmem))⟩

/-- A word and what is read behind it lie in the last piece without blanks, if the piece before that is an
equals sign. -/
theorem exists_of_word_read {r : Text} (hu₁ : Blanks u₁) (hu₂ : Solid u₂) (hu₃ : Blanks u₃) (hr : Solid r)
    (hne : r ≠ []) (h : x ++ ("function" ++ u₁) ++ (d :: u₂) ++ u₃ = z ++ '=' :: ' ' :: r) :
    ∃ a, r = a ++ "function" ++ d :: u₂ := by
  obtain rfl : u₃ = [] := by
    rcases eq_nil_or_concat u₃ with rfl | ⟨w, e, rfl⟩
    · rfl
    · obtain ⟨v, f, rfl⟩ := (eq_nil_or_concat r).resolve_left hne
      rw [concat_eq_append] at hu₃ hr h
      rw [concat_eq_append, ← append_assoc, ← cons_append, ← cons_append, ← append_assoc z] at h
      obtain rfl : e = f := singleton_inj.mp (append_inj_right' h rfl)
      exact absurd ((hu₃ e (by simp)).symm.trans (hr e (by simp))) (by decide)
  rw [append_nil, append_cons z] at h
  rcases append_eq_append_iff.mp h with ⟨m, hm, hd⟩ | ⟨m, hm, hd⟩
  · cases m with
    | nil =>
      rw [append_nil] at hm
      obtain ⟨mid, -, hmid⟩ := cut_left (not_mem_word_blanks hu₁ (by decide) rfl) hm.symm
      exact absurd hmid.symm (by simp)
    | cons e m =>
      obtain ⟨-, rfl⟩ := cons.inj hd
      exact absurd (hu₂ ' ' (by simp)) (by decide)
  · rw [append_assoc, singleton_append] at hm
    obtain ⟨mid, -, rfl⟩ := cut_left (not_mem_word_blanks hu₁ (by decide) rfl) hm
    cases mid with
    | nil => exact absurd (cons.inj hd).1 (by decide)
    | cons e mid =>
      have hsplit : r = mid ++ ("function" ++ u₁) ++ d :: u₂ := (cons.inj hd).2
      obtain rfl : u₁ = [] := by
        refine eq_nil_iff_forall_not_mem.mpr fun e he => ?_
        exact absurd ((hu₁ e he).symm.trans (hr e (by rw [hsplit]; simp [he]))) (by decide)
      exact ⟨mid, by rw [hsplit, append_nil]⟩

theorem exists_of_word_before {front back : Text} (hc : c ∉ "function".toList) (hback : ¬"function".toList <:+: back)
    (h : x ++ "function" ++ y = front ++ c :: back) :
    ∃ m, front = x ++ "function" ++ m ∧ y = m ++ c :: back := by
  refine (cut_or h).resolve_left ?_
  rintro ⟨m, hm, rfl⟩
  obtain ⟨mid, -, rfl⟩ := cut_left hc hm
  exact hback ⟨mid, y, rfl⟩

theorem CallHeader.of_word_read {h : CallHeader} (pre : Text) (hu₁ : Blanks u₁) (hu₂ : Solid u₂) (hu₃ : Blanks u₃)
    (hrest : CallTail rest) (hd : ascii.has d)
    (heq : x ++ ("function".toList ++ u₁) ++ (d :: u₂) ++ u₃ = pre ++ h.subject ++ '.' :: rest) :
    h.NamesFunction ∧ MethodName (d :: u₂) := by
  have hspace : Solid (h.receiver ++ '.' :: rest) := by
    intro c hc
    rcases mem_append.mp hc with hc | hc
    · exact isSpace_of_symbolChar (h.isSymbol_receiver.2 c hc)
    · exact hrest.nonblank c hc
  obtain ⟨a, ha⟩ := exists_of_word_read (z := pre ++ h.target ++ [' ']) (r := h.receiver ++ '.' :: rest)
    hu₁ hu₂ hu₃ hspace (by simp) (by rw [heq, subject]; simp)
  -- something is read behind the word, so it is not the end of the header
  have hdrop : a ++ "function".toList ++ (d :: u₂).dropLast = h.receiver ++ '.' :: rest.dropLast := by
    rw [← dropLast_append_of_ne_nil (cons_ne_nil d u₂), ← ha]
    rcases hrest with rfl | rfl <;> simp
  obtain ⟨z, hz, -⟩ := exists_of_word_before (by decide) hrest.not_infix_dropLast hdrop
  have hname : d :: u₂ = z ++ '.' :: rest := by
    rw [hz, append_assoc] at ha
    exact (append_cancel_left ha).symm
  refine ⟨⟨d, hd, ?_⟩, z, rest, fun c hc => h.isSymbol_receiver.2 c (by rw [hz]; simp [hc]), hrest, hname⟩
  rw [hz]
  cases z with
  | nil =>
    obtain ⟨rfl, -⟩ := cons.inj hname
    exact ⟨a, [], by simp⟩
  | cons e z =>
    obtain ⟨rfl, -⟩ := cons.inj hname
    exact ⟨a, z ++ ['.'], by simp⟩

/-! ### The name of a function -/

/-- Every opening brace of a text ends a header at the start of a line. -/
def Headed (P : CallHeader → Prop) (t : Text) : Prop :=
  ∀ a b, t = a ++ '{' :: b → ∃ pre h, P h ∧ a = pre ++ h.text ∧ (pre = [] ∨ pre.getLast? = some '\n')

theorem append_singleton_cases {m : Text} (h : x ++ [c] = y ++ c :: m) :
    (m = [] ∧ x = y) ∨ ∃ m', m = m' ++ [c] ∧ x = y ++ c :: m' := by
  rcases eq_nil_or_concat m with rfl | ⟨m', d, rfl⟩
  · exact .inl ⟨rfl, append_inj_left' h rfl⟩
  · rw [concat_eq_append, ← cons_append, ← append_assoc] at h
    obtain rfl : c = d := singleton_inj.mp (append_inj_right' h rfl)
    exact .inr ⟨m', concat_eq_append, append_inj_left' h rfl⟩

namespace CallHeader
variable {h : CallHeader}

theorem not_mem_subject (h : CallHeader) (hc : symbolChar c = false) (hne : c ∉ " = ".toList) : c ∉ h.subject := by
  intro hmem
  rcases mem_append.mp hmem with hmem | hmem
  · rcases mem_append.mp hmem with hmem | hmem
    · exact h.isSymbol_target.not_mem hc hmem
    · exact hne hmem
  · exact h.isSymbol_receiver.not_mem hc hmem

theorem not_mem_text (h : CallHeader) (hc : symbolChar c = false)
    (hfixed : c ∉ " = ".toList ++ ".map(function(".toList ++ ") ".toList) : c ∉ h.text := by
  rw [mem_append, mem_append, not_or, not_or] at hfixed
  rw [text, mem_append, mem_append, mem_append]
  rintro (((hmem | hmem) | hmem) | hmem)
  · exact h.not_mem_subject hc hfixed.1.1 hmem
  · exact hfixed.1.2 hmem
  · exact h.isSymbol_parameter.not_mem hc hmem
  · exact hfixed.2 hmem

theorem not_mem_subject_map (h : CallHeader) (hc : symbolChar c = false) (hfixed : c ∉ " = ".toList ++ ".map".toList) :
    c ∉ h.subject ++ ".map" := by
  rw [mem_append, not_or] at hfixed ⊢
  exact ⟨h.not_mem_subject hc hfixed.1, hfixed.2⟩

theorem exists_paren {pre u₄ u₅ : Text} (hu₄ : '\n' ∉ u₄) (hu₅ : Blanks u₅)
    (hpre : pre = [] ∨ pre.getLast? = some '\n') (heq : y ++ '(' :: u₄ ++ ')' :: u₅ = pre ++ h.text) :
    ∃ rest, CallTail rest ∧ y = pre ++ h.subject ++ '.' :: rest := by
  have hclose : ')' ∉ u₅ := fun hmem => absurd (hu₅ _ hmem) (by decide)
  obtain ⟨heq, -⟩ : y ++ '(' :: u₄ = pre ++ h.subject ++ ".map(function(" ++ h.parameter ∧ u₅ = [' '] :=
    cut_eq_of_last (by decide) hclose (by rw [heq, text]; simp)
  obtain ⟨m₁, hm₁, rfl⟩ := cut_left (h.isSymbol_parameter.not_mem rfl) heq.symm
  have hsecond : (pre ++ h.subject ++ ".map(function") ++ ['('] = y ++ '(' :: m₁ := by
    rw [← hm₁]
    simp
  rcases append_singleton_cases hsecond with ⟨-, hy⟩ | ⟨m₂, rfl, hm₂⟩
  · exact ⟨"map(function", .inr rfl, hy.symm⟩
  -- not the second parenthesis, so the first one or one of a line before
  obtain ⟨m₃, hm₃, rfl⟩ := cut_left (a := pre ++ h.subject ++ ".map(") (b := "function") (c := '(')
    (by decide) (by rw [← hm₂]; simp)
  have hfirst : (pre ++ h.subject ++ ".map") ++ ['('] = y ++ '(' :: m₃ := by
    rw [← hm₃]
    simp
  rcases append_singleton_cases hfirst with ⟨-, hy⟩ | ⟨m₄, rfl, hm₄⟩
  · exact ⟨"map", .inl rfl, hy.symm⟩
  obtain ⟨m₅, rfl, rfl⟩ := cut_left (a := pre) (b := h.subject ++ ".map") (c := '(')
    (h.not_mem_subject_map rfl (by decide)) (by rw [← hm₄, append_assoc])
  have hlast := hpre.resolve_left (by simp)
  have hbreak : '\n' ∈ m₅ := by
    rw [getLast?_append, getLast?_eq_some_getLast (cons_ne_nil '(' m₅), Option.some_or] at hlast
    have hmem := Option.some.inj hlast ▸ getLast_mem (cons_ne_nil '(' m₅)
    exact (mem_cons.mp hmem).resolve_left (by decide)
  exact absurd (by simp [hbreak]) hu₄

end CallHeader

def nameTail : Pattern :=
  .all [.group 1 (.all [.one ascii, .plus .nonSpace]), .blanks, .str "(", .rest, .str ")", .blanks, .str "\x7b"]

theorem nameTail_reads {caps : Captures} {b : Cursor × Captures} (h : Reads R nameTail (cur, caps) b) :
    ∃ (u₂ u₃ u₄ u₅ rest : Text) (d : Char) (s : Span), ascii.has d ∧ Solid u₂ ∧ Blanks u₃ ∧ '\n' ∉ u₄ ∧
      Blanks u₅ ∧ cur.after = (d :: u₂) ++ u₃ ++ '(' :: u₄ ++ ')' :: u₅ ++ '{' :: rest ∧
      b.2 = (1, s) :: caps ∧ s.text = d :: u₂ := by
  obtain ⟨m₃, ⟨caps', ⟨m₄, ⟨d, hd, h₃, hc₃⟩, u₂, -, hu₂, h₄, hc₄⟩, hc₅⟩, m₅, ⟨u₃, -, hu₃, h₅, hc₆⟩, m₆, ⟨h₆, hc₇⟩, m₇,
    ⟨u₄, -, hu₄, h₇, hc₈⟩, m₈, ⟨h₈, hc₉⟩, m₉, ⟨u₅, -, hu₅, h₉, hc₁₀⟩, h₁₀, hc₁₁⟩ := h
  have hname : cur.Over (d :: u₂) m₃.1 := h₃.trans h₄
  have hall := ((((((hname.trans h₅).trans h₆).trans h₇).trans h₈).trans h₉).trans h₁₀).after
  refine ⟨u₂, u₃, u₄, u₅, b.1.after, d, ⟨cur, m₃.1.pos⟩, hd, isSpace_of_nonSpace hu₂, isSpace_of_space hu₃,
    fun hmem => absurd (hu₄ _ hmem) (by decide), isSpace_of_space hu₅, by rw [hall]; simp, ?_, hname.upTo⟩
  have hcaps : caps' = caps := hc₄.trans hc₃
  rw [hc₁₁, hc₁₀, hc₉, hc₈, hc₇, hc₆, hc₅, hcaps]

theorem functionName_reads {m : Match} (h : Reads R functionName (m.start, []) (m.stop, m.captures)) :
    ∃ (u₁ u₂ u₃ u₄ u₅ rest : Text) (d : Char), Blanks u₁ ∧ ascii.has d ∧
      Solid u₂ ∧ Blanks u₃ ∧ '\n' ∉ u₄ ∧ Blanks u₅ ∧ m.group 1 = d :: u₂ ∧
      m.start.after = ("function" ++ u₁) ++ (d :: u₂) ++ u₃ ++ '(' :: u₄ ++ ')' :: u₅ ++ '{' :: rest := by
  obtain ⟨m₁, ⟨h₁, hc₁⟩, m₂, ⟨u₁, -, hu₁, h₂, hc₂⟩, htail⟩ := h
  obtain ⟨u₂, u₃, u₄, u₅, rest, d, s, hd, hu₂, hu₃, hu₄, hu₅, hafter, hcaps, hs⟩ := nameTail_reads htail
  refine ⟨u₁, u₂, u₃, u₄, u₅, rest, d, isSpace_of_space hu₁, hd, hu₂, hu₃, hu₄, hu₅, ?_, ?_⟩
  · have hcaps : m.captures = [(1, s)] := hcaps.trans (by rw [hc₂, hc₁])
    simp [Match.group, hcaps, hs]
  · rw [(h₁.trans h₂).after, hafter]
    simp

theorem search?_functionName {P : CallHeader → Prop} {m : Match} (ht : Headed P t)
    (hm : functionName.search? t = some m) : (∃ h, P h ∧ h.NamesFunction) ∧ MethodName (m.group 1) := by
  obtain ⟨x, R, rfl, hreads⟩ := reads_of_search? hm
  obtain ⟨u₁, u₂, u₃, u₄, u₅, rest, d, hu₁, hd, hu₂, hu₃, hu₄, hu₅, hgroup, hafter⟩ := functionName_reads hreads
  obtain ⟨pre, h, hP, hhead, hpre⟩ :=
    ht (x ++ ("function" ++ u₁) ++ (d :: u₂) ++ u₃ ++ '(' :: u₄ ++ ')' :: u₅) rest (by rw [hafter]; simp)
  obtain ⟨tail, htail, hy⟩ := CallHeader.exists_paren hu₄ hu₅ hpre hhead
  obtain ⟨hnames, hname⟩ := CallHeader.of_word_read pre hu₁ hu₂ hu₃ htail hd hy
  exact ⟨⟨h, hP, hnames⟩, hgroup ▸ hname⟩

theorem found_functionName {h : CallHeader} (hname : h.NamesFunction) (rest : Text) :
    functionName.found (h.text ++ '{' :: rest) := by
  obtain ⟨d, hd, a, b, hab⟩ := hname
  have hspace : Solid b := by
    intro c hc
    have hmem : c ∈ h.receiver ++ ['.'] := hab ▸ mem_append_right _ hc
    rcases mem_append.mp hmem with hmem | hmem
    · exact isSpace_of_symbolChar (h.isSymbol_receiver.2 c hmem)
    · exact mem_singleton.mp hmem ▸ rfl
  have hsplit : h.text ++ '{' :: rest = (h.target ++ " = " ++ a) ++ ("function" ++ (d ::
      ((b ++ "map(function") ++ ("(" ++ (h.parameter ++ (")" ++ (" " ++ ("\x7b" ++ rest)))))))) := by
    have hdot : h.receiver ++ ".map(function(" = a ++ "function" ++ d :: (b ++ "map(function(") := by
      have := congrArg (· ++ "map(function(".toList) hab
      simpa using this.symm
    simp only [CallHeader.text, CallHeader.subject, append_assoc] at hdot ⊢
    rw [← append_assoc h.receiver, hdot]
    simp
  obtain ⟨cur, hover, hafter⟩ := Cursor.exists_over (c := .start (h.text ++ '{' :: rest)) hsplit
  refine found_of_matchAt hover fun depth => matchAt_isSome ?_
  simp only [functionName, Pattern.all, matcher_seq, matcher_group]
  refine lit_isSome hafter (run_isSome_nil ?_)
  rw [matcher_one _ _ rfl, if_pos hd]
  refine run_isSome (u := b ++ "map(function") (by simp) (fun c hc => ?_) rfl ?_
  · rw [nonSpace_has, Bool.not_eq_true']
    rcases mem_append.mp hc with hc | hc
    · exact hspace c hc
    · exact CallTail.nonblank (.inr rfl) c (mem_cons_of_mem _ hc)
  refine run_isSome_nil (lit_isSome rfl ?_)
  refine run_isSome (u := h.parameter) (Nat.zero_le _) (fun c hc => inLine_has ?_) rfl (lit_isSome rfl ?_)
  · exact fun heq => h.isSymbol_parameter.not_mem rfl (heq ▸ hc)
  · exact run_isSome (u := " ") (Nat.zero_le _) space_has_blank rfl (lit_isSome rfl rfl)

/-! ### The arguments of a function -/

theorem Blanks.eq_nil (hu : Blanks u) (hq : Solid q) (h : u ⊆ q) : u = [] :=
  eq_nil_iff_forall_not_mem.mpr fun c hc => absurd ((hu c hc).symm.trans (hq c (h hc))) (by decide)

theorem not_mem_of_blanks_around {v : Text} (hc : isSpace c = false) (hu : Blanks u) (hg : c ∉ g) (hv : Blanks v) :
    c ∉ u ++ g ++ v := by
  simp only [mem_append, not_or]
  exact ⟨⟨fun h => Bool.false_ne_true (hc.symm.trans (hu c h)), hg⟩,
    fun h => Bool.false_ne_true (hc.symm.trans (hv c h))⟩

theorem eq_of_cut_close {z' : Text} (hu₁ : Blanks u₁) (hg : ')' ∉ g)
    (hu₂ : Blanks u₂) (hq : Solid q) (hclose : ')' ∉ q)
    (h : u₁ ++ g ++ u₂ ++ ')' :: z = q ++ ')' :: z') : g = q := by
  have heq := (cut_unique hclose (not_mem_of_blanks_around rfl hu₁ hg hu₂) h).1
  rw [hu₁.eq_nil hq (by rw [← heq]; simp), hu₂.eq_nil hq (by rw [← heq]; simp)] at heq
  simpa using heq

theorem optionalArgument_eq (ha : Blank a) (hne : p ≠ []) (hequals : '=' ∉ p)
    (hblank : ∀ c ∈ p, isBlank c = false) : optionalArgument (a ++ p) = p ++ "='__None'" := by
  have hplain : ¬has "=" (a ++ p) := by
    intro hin
    rcases mem_append.mp ((has_iff.mp hin).subset mem_cons_self) with hmem | hmem
    · exact absurd (ha _ hmem) (by decide)
    · exact hequals hmem
  have htrim := trim_around ha (forall_mem_nil _) hne (fun c hc => hblank c (mem_of_mem_head? hc))
    fun c hc => hblank c (mem_of_mem_getLast? hc)
  rw [append_nil] at htrim
  rw [optionalArgument, if_neg hplain, htrim]

theorem fields_join_list (h : ∀ q ∈ p :: ps, ',' ∉ q) : fields ',' (join ", " (p :: ps)) = p :: ps.map (' ' :: ·) := by
  induction ps generalizing p with
  | nil => exact fields_of_not_mem (h p mem_cons_self)
  | cons q ps ih =>
    rw [forall_mem_cons] at h
    have hrest := fields_append_left (a := [' ']) (by decide) (ih h.2)
    rw [join_cons _ _ (cons_ne_nil q ps), append_assoc]
    show fields ',' (p ++ ',' :: ([' '] ++ join ", " (q :: ps))) = _
    rw [fields_append_cons h.1, hrest]
    rfl

theorem map_optionalArgument (hne : ps ≠ []) (h : ∀ p ∈ ps, p ≠ [] ∧ ',' ∉ p ∧ '=' ∉ p ∧ ∀ c ∈ p, isBlank c = false) :
    (fields ',' (join ", ".toList ps)).map optionalArgument = ps.map (· ++ "='__None'".toList) := by
  obtain ⟨p, ps, rfl⟩ := exists_cons_of_ne_nil hne
  rw [fields_join_list fun q hq => (h q hq).2.1, map_cons, map_cons, map_map]
  rw [forall_mem_cons] at h
  obtain ⟨⟨hp, -, hequals, hblank⟩, hps⟩ := h
  congr 1
  · exact optionalArgument_eq (forall_mem_nil _) hp hequals hblank
  · refine map_congr_left fun q hq => ?_
    obtain ⟨hq, -, hequals, hblank⟩ := hps q hq
    exact optionalArgument_eq (a := [' ']) (forall_mem_singleton.mpr rfl) hq hequals hblank

theorem anonymous_reads {b : Cursor × Captures}
    (h : Reads R (.all [.str "function(", .blanks, .group 2 (.plusFew (.except ")")), .blanks, .str ")", .blanks])
      (cur, []) b) :
    ∃ (u₁ g u₂ rest : Text) (s : Span), Blanks u₁ ∧ g ≠ [] ∧ ')' ∉ g ∧ Blanks u₂ ∧
      cur.after = "function(" ++ (u₁ ++ g ++ u₂) ++ ')' :: rest ∧ b.2 = [(2, s)] ∧ s.text = g := by
  obtain ⟨m₁, ⟨h₁, hc₁⟩, m₂, ⟨u₁, -, hu₁, h₂, hc₂⟩, m₃, ⟨caps, ⟨g, hne, hg, h₃, hc₃⟩, hc₄⟩, m₄,
    ⟨u₂, -, hu₂, h₄, hc₅⟩, m₅, ⟨h₅, hc₆⟩, u₃, -, -, h₆, hc₇⟩ := h
  have hall := ((((h₁.trans h₂).trans h₃).trans h₄).trans h₅).after
  refine ⟨u₁, g, u₂, m₅.1.after, ⟨m₂.1, m₃.1.pos⟩, isSpace_of_space hu₁, length_pos_iff.mp hne,
    fun hmem => absurd (hg _ hmem) (by decide), isSpace_of_space hu₂, by rw [hall]; simp, ?_, h₃.upTo⟩
  have hcaps : caps = [] := hc₃.trans (hc₂.trans hc₁)
  rw [hc₇, hc₆, hc₅, hc₄, hcaps]

theorem named_reads {b : Cursor × Captures}
    (h : Reads R (.all [.str "function", .blanks, .one ascii, .star .nonSpace, .blanks, .str "(", .blanks,
      .group 1 (.plusFew (.except ")")), .blanks, .str ")", .blanks, .str "\x7b"]) (cur, []) b) :
    ∃ (u₁ u₂ u₃ u₄ g u₅ rest : Text) (d : Char) (s : Span), Blanks u₁ ∧ ascii.has d ∧
      Solid u₂ ∧ Blanks u₃ ∧ Blanks u₄ ∧ g ≠ [] ∧ ')' ∉ g ∧ Blanks u₅ ∧
      cur.after = ("function" ++ u₁) ++ (d :: u₂) ++ u₃ ++ '(' :: (u₄ ++ g ++ u₅ ++ ')' :: rest) ∧
      b.2 = [(1, s)] ∧ s.text = g := by
  obtain ⟨m₁, ⟨h₁, hc₁⟩, m₂, ⟨u₁, -, hu₁, h₂, hc₂⟩, m₃, ⟨d, hd, h₃, hc₃⟩, m₄, ⟨u₂, -, hu₂, h₄, hc₄⟩, m₅,
    ⟨u₃, -, hu₃, h₅, hc₅⟩, m₆, ⟨h₆, hc₆⟩, m₇, ⟨u₄, -, hu₄, h₇, hc₇⟩, m₈, ⟨caps, ⟨g, hne, hg, h₈, hc₈⟩, hc₉⟩, m₉,
    ⟨u₅, -, hu₅, h₉, hc₁₀⟩, m₁₀, ⟨h₁₀, hc₁₁⟩, m₁₁, ⟨u₆, -, -, -, hc₁₂⟩, -, hc₁₃⟩ := h
  have hall := (((((((((h₁.trans h₂).trans h₃).trans h₄).trans h₅).trans h₆).trans h₇).trans h₈).trans h₉).trans
    h₁₀).after
  refine ⟨u₁, u₂, u₃, u₄, g, u₅, m₁₀.1.after, d, ⟨m₇.1, m₈.1.pos⟩, isSpace_of_space hu₁, hd, isSpace_of_nonSpace hu₂,
    isSpace_of_space hu₃, isSpace_of_space hu₄, length_pos_iff.mp hne, fun hmem => absurd (hg _ hmem) (by decide),
    isSpace_of_space hu₅, by rw [hall]; simp, ?_, h₈.upTo⟩
  have hcaps : caps = [] := hc₈.trans (hc₇.trans (hc₆.trans (hc₅.trans (hc₄.trans (hc₃.trans (hc₂.trans hc₁))))))
  rw [hc₁₃, hc₁₂, hc₁₁, hc₁₀, hc₉, hcaps]

/-- The word `function` with the first character of a name and what may follow it. -/
def WordRead (y : Text) : Prop :=
  ∃ (u₁ u₂ u₃ : Text) (d : Char), Blanks u₁ ∧ ascii.has d ∧ Solid u₂ ∧ Blanks u₃ ∧
    y = ("function" ++ u₁) ++ (d :: u₂) ++ u₃

/-- What the pattern for the arguments reads: a word with or without something behind it, and text in parentheses. -/
theorem functionArguments_reads {m : Match} (h : Reads R functionArguments (m.start, []) (m.stop, m.captures)) :
    ∃ y u v z : Text, Blanks u ∧ Blanks v ∧ m.group 1 ++ m.group 2 ≠ [] ∧ ')' ∉ u ++ (m.group 1 ++ m.group 2) ++ v ∧
      m.start.after = y ++ '(' :: (u ++ (m.group 1 ++ m.group 2) ++ v ++ ')' :: z) ∧ (y = "function" ∨ WordRead y) := by
  rcases h with h | h
  · obtain ⟨u₁, u₂, u₃, u₄, g, u₅, z, d, s, hu₁, hd, hu₂, hu₃, hu₄, hne, hg, hu₅, hafter, hcaps, hs⟩ := named_reads h
    have hgroup : m.group 1 ++ m.group 2 = g := by
      have hcaps : m.captures = [(1, s)] := hcaps
      simp [Match.group, hcaps, lookup_cons, hs]
    rw [hgroup]
    exact ⟨_, u₄, u₅, z, hu₄, hu₅, hne, not_mem_of_blanks_around rfl hu₄ hg hu₅, hafter,
      .inr ⟨u₁, u₂, u₃, d, hu₁, hd, hu₂, hu₃, rfl⟩⟩
  · obtain ⟨u₁, g, u₂, z, s, hu₁, hne, hg, hu₂, hafter, hcaps, hs⟩ := anonymous_reads h
    have hgroup : m.group 1 ++ m.group 2 = g := by
      have hcaps : m.captures = [(2, s)] := hcaps
      simp [Match.group, hcaps, lookup_cons, hs]
    rw [hgroup]
    exact ⟨"function", u₁, u₂, z, hu₁, hu₂, hne, not_mem_of_blanks_around rfl hu₁ hg hu₂,
      by rw [hafter]; simp, .inl rfl⟩

namespace CallHeader
variable {h : CallHeader} {rest : Text}

theorem isSpace_parameter (h : CallHeader) : Solid h.parameter := fun c hc =>
  isSpace_of_symbolChar (h.isSymbol_parameter.2 c hc)

theorem isSpace_word_parameter (h : CallHeader) : Solid ("function(" ++ h.parameter) := by
  intro c hc
  rcases mem_append.mp hc with hc | hc
  · exact CallTail.nonblank (.inr rfl) c (by revert hc; simp; tauto)
  · exact h.isSpace_parameter c hc

theorem matchAt_functionArguments (h : CallHeader) (rest : Text) (depth : Nat)
    (hafter : cur.after = "function(" ++ (h.parameter ++ (")" ++ (" " ++ rest)))) :
    (functionArguments.matchAt depth false cur).isSome := by
  refine matchAt_isSome (either_isSome_right ?_)
  simp only [Pattern.all, matcher_seq, matcher_group]
  refine lit_isSome hafter (run_isSome_nil ?_)
  refine run_isSome (u := h.parameter) (length_pos_iff.mpr h.isSymbol_parameter.1) (fun c hc => ?_) rfl ?_
  · have hclose : c ≠ ')' := fun heq => h.isSymbol_parameter.not_mem rfl (heq ▸ hc)
    simp [CharSet.except, CharSet.has, CharClass.covers, hclose]
  refine run_isSome_nil (lit_isSome rfl ?_)
  exact run_isSome (u := " ") (Nat.zero_le _) space_has_blank rfl rfl

theorem not_read_over_blank {b : Text} (hread : WordRead y) : y ≠ a ++ ')' :: ' ' :: '{' :: b := by
  obtain ⟨u₁, u₂, u₃, d, hu₁, -, hu₂, hu₃, rfl⟩ := hread
  intro heq
  have hword : ')' ∉ "function" ++ u₁ := not_mem_word_blanks hu₁ (by decide) rfl
  obtain ⟨m, -, hm⟩ := cut_right (b := d :: u₂ ++ u₃) hword ((append_assoc _ _ _).symm.trans heq)
  obtain ⟨m', hm'⟩ : ∃ m', u₂ ++ u₃ = m' ++ ' ' :: '{' :: b := by
    cases m with
    | nil => exact ⟨[], (cons.inj hm).2⟩
    | cons e m => exact ⟨m ++ [')'], by rw [append_assoc]; exact (cons.inj hm).2⟩
  have hblank : ' ' ∉ u₂ := fun hmem => absurd (hu₂ _ hmem) (by decide)
  obtain ⟨m'', -, hm''⟩ := cut_right hblank hm'
  exact absurd (hu₃ '{' (by rw [hm'']; simp)) (by decide)

theorem paren_of_named (hread : WordRead y) (hx : h.subject ++ ".map(" = x ++ w)
    (heq : x ++ y ++ '(' :: z = h.text ++ '{' :: rest) :
    ∃ tail q, CallTail tail ∧ x ++ y = h.subject ++ '.' :: tail ∧
      z = q ++ ')' :: ' ' :: '{' :: rest ∧ (q = h.parameter ∨ q = "function(" ++ h.parameter) := by
  have htext : h.text ++ '{' :: rest = (h.subject ++ ".map") ++ '(' :: ("function" ++ '(' ::
      (h.parameter ++ ')' :: ' ' :: '{' :: rest)) := by
    simp [text]
  rcases cut_eq_or_behind (h.not_mem_subject_map rfl (by decide)) (heq.trans htext) with ⟨hy, hz⟩ | ⟨m₁, hy, hz⟩
  · exact ⟨"map", "function(" ++ h.parameter, .inl rfl, hy, by rw [hz]; simp, .inr rfl⟩
  rcases cut_eq_or_behind (by decide) hz.symm with ⟨rfl, hz'⟩ | ⟨m₂, rfl, hz'⟩
  · exact ⟨"map(function", h.parameter, .inr rfl, by rw [hy]; simp, hz', .inl rfl⟩
  -- a parenthesis behind the second one stands behind the brace
  have hbrace : '(' ∉ h.parameter ++ ") \x7b" := by
    intro hmem
    rcases mem_append.mp hmem with hmem | hmem
    · exact h.isSymbol_parameter.not_mem rfl hmem
    · exact absurd hmem (by decide)
  obtain ⟨m₃, rfl, -⟩ := cut_right (b := rest) hbrace (by rw [← hz']; simp)
  have hbehind : x ++ y = x ++ (w ++ "function(" ++ h.parameter ++ ')' :: ' ' :: '{' :: m₃) := by
    have hopen : h.subject ++ ".map" ++ ['('] = x ++ w := by
      rw [← hx]
      simp
    rw [hy, append_cons, hopen]
    simp
  exact absurd (append_cancel_left hbehind) (not_read_over_blank hread)

theorem group_of_named (hword : WordRead y) (hw : h.subject ++ ".map(" = x ++ w) (hu₁ : Blanks u₁)
    (hg : ')' ∉ g) (hu₂ : Blanks u₂) (hread : x ++ y ++ '(' :: (u₁ ++ g ++ u₂ ++ ')' :: z) = h.text ++ '{' :: rest) :
    h.NamesFunction ∧ (g = h.parameter ∨ g = "function(" ++ h.parameter) := by
  obtain ⟨tail, q, htail, hy, hz, hq⟩ := paren_of_named hword hw hread
  obtain ⟨v₁, v₂, v₃, d, hv₁, hd, hv₂, hv₃, rfl⟩ := hword
  have hnames := (of_word_read (h := h) [] (x := x) hv₁ hv₂ hv₃ htail hd (by rw [nil_append, ← hy]; simp)).1
  refine ⟨hnames, hq.imp (fun hq => ?_) fun hq => ?_⟩
  · subst hq
    exact eq_of_cut_close hu₁ hg hu₂ h.isSpace_parameter (h.isSymbol_parameter.not_mem rfl) hz
  · subst hq
    refine eq_of_cut_close hu₁ hg hu₂ h.isSpace_word_parameter (fun hmem => ?_) hz
    rcases mem_append.mp hmem with hmem | hmem
    · exact absurd hmem (by decide)
    · exact h.isSymbol_parameter.not_mem rfl hmem

theorem group_of_anonymous (rest : Text) (hw : h.subject ++ ".map(" = x ++ w) (hu₁ : Blanks u₁)
    (hg : ')' ∉ g) (hu₂ : Blanks u₂) (hread : "function" ++ '(' :: (u₁ ++ g ++ u₂ ++ ')' :: z) =
      w ++ ("function" ++ '(' :: (h.parameter ++ ')' :: ' ' :: '{' :: rest))) : g = h.parameter := by
  obtain rfl : w = [] := by
    rcases eq_nil_or_concat w with rfl | ⟨w, e, rfl⟩
    · rfl
    · -- the parenthesis behind the method would end the word
      rw [concat_eq_append] at hw hread
      have hmethod : (h.subject ++ ".map") ++ ['('] = (x ++ w) ++ [e] := by
        rw [append_assoc x, ← hw]
        simp
      have hfront := append_inj_left' hmethod rfl
      obtain rfl : '(' = e := singleton_inj.mp (append_inj_right' hmethod rfl)
      have hopen : '(' ∉ w := fun hmem =>
        h.not_mem_subject_map rfl (by decide) (hfront ▸ mem_append_right x hmem)
      rw [append_assoc w, singleton_append] at hread
      rcases cut_eq_or_behind hopen hread with ⟨rfl, -⟩ | ⟨mid, hmid, -⟩
      · have hlast : (h.subject ++ ".ma") ++ ['p'] = (x ++ "functio") ++ ['n'] := by
          simpa using hfront
        exact absurd (singleton_inj.mp (append_inj_right' hlast rfl)) (by decide)
      · exact absurd (hmid ▸ mem_append_right w mem_cons_self) (by decide)
  exact eq_of_cut_close hu₁ hg hu₂ h.isSpace_parameter (h.isSymbol_parameter.not_mem rfl)
    (cons.inj (append_cancel_left hread)).2

theorem search?_functionArguments (h : CallHeader) (rest : Text) :
    ∃ m, functionArguments.search? (h.text ++ '{' :: rest) = some m ∧ (m.group 1 ++ m.group 2 = h.parameter ∨
      h.NamesFunction ∧ m.group 1 ++ m.group 2 = "function(" ++ h.parameter) := by
  have hsplit : h.text ++ '{' :: rest = (h.subject ++ ".map(") ++ ("function" ++ '(' ::
      (h.parameter ++ ')' :: ' ' :: '{' :: rest)) := by
    simp [text]
  obtain ⟨cur, hcur, hafter⟩ := Cursor.exists_over (c := .start (h.text ++ '{' :: rest)) hsplit
  have hsome (depth : Nat) : (functionArguments.matchAt depth false cur).isSome :=
    h.matchAt_functionArguments ('{' :: rest) depth (by rw [hafter]; simp)
  obtain ⟨m, hm⟩ : ∃ m, functionArguments.search? (h.text ++ '{' :: rest) = some m :=
    Option.isSome_iff_exists.mp (found_of_matchAt hcur hsome)
  refine ⟨m, hm, ?_⟩
  obtain ⟨x, hx, hmatch, hfirst⟩ := @searchFrom_some functionArguments _ false (.start _) m hm
  have hcut : x ++ m.start.after = (h.subject ++ ".map(") ++ cur.after :=
    hx.after.symm.trans hcur.after
  -- the match does not start behind the function
  obtain ⟨w, hw⟩ : ∃ w, h.subject ++ ".map(" = x ++ w := by
    rcases append_eq_append_iff.mp hcut with ⟨w, hw, -⟩ | ⟨w, hw, -⟩
    · exact ⟨w, hw⟩
    · by_cases hnil : w = []
      · exact ⟨[], by rw [hw, hnil, append_nil, append_nil]⟩
      · have hnone := hfirst _ w cur hw hnil hcur
        rw [Bool.false_and] at hnone
        exact absurd (hnone ▸ hsome _) (by decide)
  obtain ⟨y, u, v, z, hu, hv, -, hclose, hread, hy⟩ := functionArguments_reads (reads_of_matchAt hmatch).2
  have hg : ')' ∉ m.group 1 ++ m.group 2 := fun hmem => hclose (mem_append_left _ (mem_append_right u hmem))
  rcases hy with rfl | hword
  · refine .inl (group_of_anonymous rest hw hu hg hv (hread.symm.trans ?_))
    rw [hafter, hw, append_assoc] at hcut
    exact append_cancel_left hcut
  · obtain ⟨hnames, hp⟩ := group_of_named hword hw hu hg hv (by rw [append_assoc, ← hread]; exact hx.after.symm)
    exact hp.imp_right fun hp => ⟨hnames, hp⟩

end CallHeader

end Geoscript.Script
