import Geoscript.Proofs.Script.BracedText
import Geoscript.Proofs.Script.CallHeader
import Geoscript.Proofs.Script.Grouping
import Geoscript.Proofs.Script.Parens

/-! Functions handed to a call. A `Callback` on its own is cut out of its call (`convertLines_alone`). With other text
in parentheses behind it the two do not stand together, and nothing is cut out (`convertLines_followed`). -/

namespace Geoscript.Script
open List Text Pattern
variable {a t name q : Text} {n : Int} {c d : Char} {ls : List Text} {s : NameSupply}

/-! ### Text in parentheses -/

/-- A function handed to a call stands in its parentheses. -/
theorem insideParensFrom_function {p i : Text} (b : Text) (ha : Unparenthesized a) (hp : IsSymbol p)
    (hi : Unparenthesized i) :
    insideParensFrom 0 (a ++ '(' :: ("function(" ++ p ++ ") \x7b" ++ i ++ "\x7d)" ++ b)) =
      "function(" ++ p ++ ") \x7b" ++ i ++ '}' :: insideParensFrom 0 b := by
  have hparameter : Unparenthesized p := ⟨hp.not_mem rfl, hp.not_mem rfl⟩
  have hword (t : Text) : insideParensFrom 1 ("function(" ++ t) = "function(" ++ insideParensFrom 2 t := rfl
  have hbrace (t : Text) : insideParensFrom 2 (") \x7b" ++ t) = ") \x7b" ++ insideParensFrom 1 t := rfl
  have hend (t : Text) : insideParensFrom 1 ("\x7d)" ++ t) = '}' :: insideParensFrom 0 t := rfl
  rw [append_assoc, append_assoc, append_assoc, append_assoc, insideParensFrom_outside _ ha, hword,
    hparameter.insideParensFrom_append, hbrace, hi.insideParensFrom_append, hend]
  simp

theorem head_insideParensFrom (hn : n ≤ 1) : (insideParensFrom n t).head? ≠ some ')' := by
  induction t generalizing n with
  | nil => exact fun h => nomatch h
  | cons c t ih =>
    by_cases hclose : c = ')'
    · subst hclose
      rw [insideParensFrom]
      simp only [beq_self_eq_true, if_true, if_neg (show ¬n - 1 > 0 by omega)]
      exact ih (by simp; omega)
    · rw [insideParensFrom]
      have hne : (c == ')') = false := by simp [hclose]
      simp only [hne, Bool.false_eq_true, if_false, gt_iff_lt]
      split
      · simpa using hclose
      · next hpos =>
        refine ih ?_
        split <;> omega

theorem replace_once {o₁ o₂ pre post : Text} (new : Text) (ho₁ : '{' ∉ o₁) (hpre : '{' ∉ pre) (hpost : '{' ∉ post) :
    replace (o₁ ++ '{' :: o₂) new (pre ++ ((o₁ ++ '{' :: o₂) ++ post)) = pre ++ new ++ post := by
  have hold : o₁ ++ '{' :: o₂ ≠ [] := by simp
  induction pre with
  | nil =>
    have hrest : ¬o₁ ++ '{' :: o₂ <:+: post := fun h => hpost (h.subset (by simp))
    rw [nil_append, replace_append hold, replace_of_not_occurs hold hrest, nil_append]
  | cons c pre ih =>
    have hstart : ¬o₁ ++ '{' :: o₂ <+: c :: (pre ++ ((o₁ ++ '{' :: o₂) ++ post)) := by
      rintro ⟨z, hz⟩
      have hcut : o₁ ++ '{' :: (o₂ ++ z) = (c :: pre ++ o₁) ++ '{' :: (o₂ ++ post) := by
        simpa using hz
      have hfront : '{' ∉ c :: pre ++ o₁ := by
        rw [mem_append, not_or]
        exact ⟨hpre, ho₁⟩
      rcases cut_eq_or_behind hfront hcut with ⟨heq, -⟩ | ⟨mid, heq, -⟩
      · exact absurd (congrArg length heq) (by simp; omega)
      · exact absurd (heq ▸ by simp) ho₁
    rw [mem_cons, not_or] at hpre
    rw [cons_append, replace_cons hold hstart, ih hpre.2]
    rfl

/-! ### Callbacks -/

def behind (ls : List Text) : Text :=
  ls.flatMap ('\n' :: ·)

theorem unlines_cons (l : Text) (ls : List Text) : unlines (l :: ls) = l ++ behind ls := by
  induction ls generalizing l with
  | nil => exact (append_nil l).symm
  | cons l' ls ih =>
    rw [unlines, join_cons _ _ (cons_ne_nil l' ls), ← unlines, ih l']
    simp [behind]

theorem behind_append (ls ls' : List Text) : behind (ls ++ ls') = behind ls ++ behind ls' :=
  flatMap_append

theorem not_mem_behind (h : ∀ l ∈ ls, c ∉ l) (hc : c ≠ '\n') : c ∉ behind ls ++ ['\n'] := by
  intro hmem
  rcases mem_append.mp hmem with hmem | hmem
  · obtain ⟨l, hl, hmem⟩ := mem_flatMap.mp hmem
    exact h l hl ((mem_cons.mp hmem).resolve_left hc)
  · exact hc (mem_singleton.mp hmem)

/-- A call with a function whose body has no brackets in it. -/
structure Callback extends CallHeader where
  body : List Text
  body_ne_nil : body ≠ []
  body_plain : ∀ l ∈ body, ∀ c ∈ l, c ∉ ['\n', '(', ')', '{', '}']

def closingBrace : Text := "\x7d);"

namespace Callback
variable {b : Callback} {c : Char} {s : NameSupply}

def opening (b : Callback) : Text :=
  b.text ++ ['{']

def lines (b : Callback) : List Text :=
  b.opening :: (b.body ++ [closingBrace])

def inner (b : Callback) : Text :=
  behind b.body ++ ['\n']

def handed (b : Callback) : Text :=
  "function(" ++ b.parameter ++ ") " ++ '{' :: (b.inner ++ ['}'])

theorem not_mem_inner (b : Callback) (hc : c ∈ ['(', ')', '{', '}']) : c ∉ b.inner :=
  not_mem_behind (fun l hl hmem => b.body_plain l hl c hmem (mem_cons_of_mem _ hc)) fun h => absurd (h ▸ hc) (by decide)

theorem unlines_lines (b : Callback) (more : List Text) :
    unlines (b.lines ++ more) = b.text ++ '{' :: (b.inner ++ '}' :: (");" ++ behind more)) := by
  rw [lines, cons_append, unlines_cons, behind_append, behind_append]
  simp [opening, inner, closingBrace, behind]

theorem unparenthesized_subject (b : Callback) : Unparenthesized (b.subject ++ ".map") :=
  ⟨b.not_mem_subject_map rfl (by decide), b.not_mem_subject_map rfl (by decide)⟩

theorem insideParens_lines (b : Callback) (more : List Text) :
    insideParens (unlines (b.lines ++ more)) = b.handed ++ insideParensFrom 0 (behind more) := by
  have hsplit : unlines (b.lines ++ more) = (b.subject ++ ".map") ++ '(' :: ("function(" ++ b.parameter ++
      ") \x7b" ++ b.inner ++ "\x7d)" ++ (";" ++ behind more)) := by
    rw [unlines_lines]
    simp [CallHeader.text]
  have hend : Unparenthesized ";" := by decide
  rw [insideParens, hsplit, insideParensFrom_function _ b.unparenthesized_subject b.isSymbol_parameter
    ⟨b.not_mem_inner (by decide), b.not_mem_inner (by decide)⟩, hend.insideParensFrom_append, if_neg (by decide),
    nil_append]
  unfold handed
  simp

end Callback

/-! ### Braces line by line -/

/-- Wherever a character stands in a text, what is before it and behind it are as asked. -/
def AtEach (c : Char) (Q : Text → Text → Prop) (t : Text) : Prop :=
  ∀ a b, t = a ++ c :: b → Q a b

theorem AtEach.of_not_mem {Q : Text → Text → Prop} (h : c ∉ t) : AtEach c Q t := by
  rintro a b rfl
  exact absurd (by simp) h

theorem AtEach.unlines {Q : Text → Text → Prop} (hc : c ≠ '\n')
    (hfront : ∀ a m b, Q a m → Q a (m ++ '\n' :: b)) (hback : ∀ a m b, Q m b → Q (a ++ '\n' :: m) b)
    (h : ∀ l ∈ ls, AtEach c Q l) : AtEach c Q (unlines ls) := by
  induction ls with
  | nil => exact AtEach.of_not_mem (not_mem_nil)
  | cons l ls ih =>
    rw [forall_mem_cons] at h
    by_cases hls : ls = []
    · subst hls
      exact h.1
    · intro a b hab
      rw [Text.unlines, join_cons _ _ hls, ← Text.unlines, append_assoc, singleton_append] at hab
      rcases cut_or hab with ⟨m, hm, rfl⟩ | ⟨m, rfl, hcut⟩
      · exact hfront a m _ (h.1 a m hm)
      · cases m with
        | nil => exact absurd (cons.inj hcut).1.symm hc
        | cons d m =>
          obtain ⟨rfl, hrest⟩ := cons.inj hcut
          exact hback l m b (ih h.2 m b hrest)

theorem headed_unlines {P : CallHeader → Prop} (h : ∀ l ∈ ls, Headed P l) : Headed P (unlines ls) := by
  refine AtEach.unlines (by decide) (fun _ _ _ hQ => hQ) (fun a m _ hQ => ?_) h
  obtain ⟨pre, header, hP, rfl, hpre⟩ := hQ
  refine ⟨a ++ '\n' :: pre, header, hP, by simp, .inr ?_⟩
  rcases hpre with rfl | hpre
  · exact getLast?_concat
  · rw [getLast?_append, getLast?_cons, hpre]
    rfl

def Paired (t : Text) : Prop :=
  AtEach '}' (fun _ b => b.head? = some ')') t

theorem paired_unlines (h : ∀ l ∈ ls, Paired l) : Paired (unlines ls) := by
  refine AtEach.unlines (by decide) (fun _ m _ hQ => ?_) (fun _ _ _ hQ => hQ) h
  rw [head?_append, hQ]
  rfl

/-- A line that may stand behind a callback: its braces are those of callbacks. -/
structure Braced (P : CallHeader → Prop) (t : Text) : Prop where
  headed : Headed P t
  paired : Paired t

theorem Braced.of_not_mem {P : CallHeader → Prop} (hopen : '{' ∉ t) (hclose : '}' ∉ t) : Braced P t where
  headed := AtEach.of_not_mem hopen
  paired := AtEach.of_not_mem hclose

theorem Braced.unlines {P : CallHeader → Prop} (h : ∀ l ∈ ls, Braced P l) : Braced P (unlines ls) where
  headed := headed_unlines fun l hl => (h l hl).headed
  paired := paired_unlines fun l hl => (h l hl).paired

namespace Callback
variable {b : Callback} {P : CallHeader → Prop}

theorem not_mem_header (h : CallHeader) : '{' ∉ h.text ∧ '}' ∉ h.text :=
  ⟨h.not_mem_text rfl (by decide), h.not_mem_text rfl (by decide)⟩

theorem braced_opening (b : Callback) (hP : P b.toCallHeader) : Braced P b.opening where
  headed x y hxy := by
    have hcut : x ++ '{' :: y = b.text ++ '{' :: [] := hxy.symm
    rcases cut_eq_or_behind (not_mem_header _).1 hcut with ⟨rfl, -⟩ | ⟨m, -, hm⟩
    · exact ⟨[], b.toCallHeader, hP, rfl, .inl rfl⟩
    · exact absurd hm.symm (by simp)
  paired := AtEach.of_not_mem (by simp [opening, (not_mem_header b.toCallHeader).2])

theorem braced_closingBrace : Braced P closingBrace where
  headed := AtEach.of_not_mem (by decide)
  paired x y hxy := by
    have hcut : x ++ '}' :: y = [] ++ '}' :: ");" := hxy.symm
    rcases cut_eq_or_behind not_mem_nil hcut with ⟨-, rfl⟩ | ⟨m, -, hm⟩
    · rfl
    · exact absurd (hm ▸ by simp : '}' ∈ ");".toList) (by decide)

theorem body_braceless (b : Callback) : ∀ l ∈ b.body, '{' ∉ l ∧ '}' ∉ l := fun l hl =>
  ⟨fun hmem => b.body_plain l hl _ hmem (by decide), fun hmem => b.body_plain l hl _ hmem (by decide)⟩

theorem braced_body {l : Text} (hl : l ∈ b.body) : Braced P l :=
  Braced.of_not_mem (b.body_braceless l hl).1 (b.body_braceless l hl).2

theorem braced_lines (b : Callback) (hP : P b.toCallHeader) : ∀ l ∈ b.lines, Braced P l := by
  intro l hl
  rcases mem_cons.mp hl with rfl | hl
  · exact b.braced_opening hP
  · rcases mem_append.mp hl with hl | hl
    · exact braced_body hl
    · exact mem_singleton.mp hl ▸ braced_closingBrace

end Callback

/-! ### Names -/

theorem mem_pick {alphabet : Text} (h : alphabet ≠ []) (k : Nat) : NameSupply.pick alphabet k ∈ alphabet := by
  have hlt : k % alphabet.length < alphabet.length := Nat.mod_lt _ (length_pos_iff.mpr h)
  rw [NameSupply.pick, getD_eq_getElem?_getD, getElem?_eq_getElem hlt]
  exact getElem_mem hlt

theorem mem_next (h : c ∈ s.next.1) : c ∈ NameSupply.lettersAndDigits := by
  rcases mem_append.mp h with h | h
  · obtain ⟨i, -, rfl⟩ := mem_map.mp h
    exact mem_append_left _ (mem_pick (by decide) _)
  · obtain ⟨i, -, rfl⟩ := mem_map.mp h
    exact mem_pick (by decide) _

theorem not_mem_next (h : c ∉ NameSupply.lettersAndDigits) (s : NameSupply) : c ∉ s.next.1 := fun hmem =>
  h (mem_next hmem)

/-- A name as the functions of callbacks get it: drawn, or read off a receiver. -/
def Given (name : Text) : Prop :=
  (∃ s : NameSupply, name = s.next.1) ∨ MethodName name

theorem MethodName.not_mem (h : MethodName name) (hc : symbolChar c = false)
    (hrest : c ∉ ".map(function".toList) : c ∉ name := by
  obtain ⟨z, rest, hz, htail, rfl⟩ := h
  have htail' : c ∉ '.' :: rest := by
    rcases htail with rfl | rfl
    · exact fun hmem => hrest (mem_append_left "(function" hmem)
    · exact hrest
  intro hmem
  rcases mem_append.mp hmem with hmem | hmem
  · exact Bool.false_ne_true (hc.symm.trans (hz c hmem))
  · exact htail' hmem

theorem Given.not_mem (h : Given name) (hc : c ∈ ['{', '}']) : c ∉ name := by
  simp only [mem_cons, not_mem_nil, or_false] at hc
  rcases h with ⟨s, rfl⟩ | h
  · rcases hc with rfl | rfl <;> exact not_mem_next (by decide) s
  · rcases hc with rfl | rfl <;> exact h.not_mem rfl (by decide)

/-! ### What is kept of a text in parentheses -/

def Encloses (t : Text) : Prop :=
  ∀ z, insideParensFrom 0 (t ++ z) ≠ []

theorem encloses_of_paren (rest : Text) (ha : Unparenthesized a) (hd : d ≠ ')') : Encloses (a ++ '(' :: d :: rest) := by
  intro z
  have hne : (d == ')') = false := by simp [hd]
  rw [append_assoc, cons_append, insideParensFrom_outside _ ha, cons_append, insideParensFrom]
  simp [hne]

theorem Callback.encloses_opening (b : Callback) : Encloses b.opening := by
  have hsplit : b.opening = (b.subject ++ ".map") ++ '(' :: 'f' :: ("unction(" ++ b.parameter ++ ") \x7b") := by
    simp [opening, CallHeader.text]
  rw [hsplit]
  exact encloses_of_paren _ b.unparenthesized_subject (by decide)

theorem encloses_definition (rest : Text) (hname : Given name) (hd : d ≠ ')') :
    Encloses ("def " ++ name ++ '(' :: d :: rest) := by
  have hplain {u : Text} (v : Text) {e : Char} (hu : Unparenthesized u) (he : e ≠ ')') :
      Encloses ("def " ++ u ++ '(' :: e :: v) := by
    refine encloses_of_paren v ?_ he
    simp [Unparenthesized, hu.1, hu.2]
  rcases hname with ⟨s, rfl⟩ | ⟨z, tail, hz, htail, rfl⟩
  · exact hplain rest ⟨not_mem_next (by decide) s, not_mem_next (by decide) s⟩ hd
  · have hopen : '(' ∉ z := fun hmem => absurd (hz _ hmem) (by decide)
    have hclose : ')' ∉ z := fun hmem => absurd (hz _ hmem) (by decide)
    have hmap : Unparenthesized (z ++ ".map") := by
      simp [Unparenthesized, hopen, hclose]
    rcases htail with rfl | rfl
    · exact hplain rest hmap hd
    · -- the parenthesis of the name comes first
      have hsplit : "def " ++ (z ++ '.' :: "map(function") ++ '(' :: d :: rest =
          "def " ++ (z ++ ".map") ++ '(' :: 'f' :: ("unction" ++ '(' :: d :: rest) := by
        simp
      rw [hsplit]
      exact hplain _ hmap (by decide)

/-! ### Converting the lines of a callback -/

open FunctionKind

theorem convertLines_of_read {f : FunctionParts} {s' : NameSupply} (h : readFunction (unlines ls) s = .ok (f, s')) :
    callback.convertLines ls s = .ok (f.definition ++ replace (insideParens (unlines ls)) f.name (unlines ls), s') := by
  have hconvert : callback.convert (unlines ls) s =
      .ok (⟨f, f.definition ++ replace (insideParens (unlines ls)) f.name (unlines ls)⟩, s') := naming_bind_ok h
  exact naming_bind_ok hconvert

theorem convertLines_noBody (h : ∀ l ∈ ls, '}' ∉ l) (s : NameSupply) : callback.convertLines ls s = .error .noBody := by
  have hclose : '}' ∉ unlines ls := by
    intro hmem
    obtain ⟨l, hl, hin⟩ := infix_join (cons_ne_nil _ _) (by decide) ((singleton_infix_iff '}' _).mpr hmem)
    exact h l hl (hin.subset mem_cons_self)
  have hread : readFunction (unlines ls) s = .error .noBody := by
    have hnone : firstBraced? (unlines ls) = none := firstBraced?_eq_none_iff.mpr fun a u b hbraced =>
      hclose (hbraced.1 ▸ by simp)
    rw [readFunction_eq, hnone]
    rfl
  have hconvert : callback.convert (unlines ls) s = .error .noBody := naming_bind_error hread
  exact naming_bind_error hconvert

namespace Callback
variable {b : Callback} {P : CallHeader → Prop}

/-- The definition that a callback gets, with the text of its argument. -/
def definition (b : Callback) (name argument : Text) : Text :=
  "def " ++ name ++ "(" ++ argument ++ "='__None'):" ++ trimEnd b.inner

/-- The call with the name of the function in it. -/
def call (b : Callback) (name : Text) : Text :=
  b.subject ++ ".map(" ++ name ++ ");"

/-- The argument is the parameter, or what stands before it is read as a name. -/
def Argument (b : Callback) (q : Text) : Prop :=
  q = b.parameter ∨ b.NamesFunction ∧ q = "function(" ++ b.parameter

theorem Argument.not_mem (h : b.Argument q) (hc : symbolChar c = false) (hword : c ∉ "function(".toList) : c ∉ q := by
  rcases h with rfl | ⟨-, rfl⟩
  · exact b.isSymbol_parameter.not_mem hc
  · rw [mem_append, not_or]
    exact ⟨hword, b.isSymbol_parameter.not_mem hc⟩

theorem Argument.isBlank (h : b.Argument q) : ∀ c ∈ q, isBlank c = false := by
  have hparameter : ∀ c ∈ b.parameter, Text.isBlank c = false := fun c hc =>
    isBlank_of_symbolChar (b.isSymbol_parameter.2 c hc)
  rcases h with rfl | ⟨-, rfl⟩
  · exact hparameter
  · intro c hc
    rcases mem_append.mp hc with hc | hc
    · have hall : ("function(".toList).all (fun c => !Text.isBlank c) := by decide
      simpa using all_eq_true.mp hall c hc
    · exact hparameter c hc

theorem Argument.arguments {q : Text} (h : b.Argument q) :
    join ", " ((fields ',' q).map optionalArgument) = q ++ "='__None'" := by
  have hne : q ≠ [] := by
    rcases h with rfl | ⟨-, rfl⟩
    · exact b.isSymbol_parameter.1
    · simp
  have hplain := map_optionalArgument (cons_ne_nil q []) (forall_mem_singleton.mpr
    ⟨hne, h.not_mem rfl (by decide), h.not_mem rfl (by decide), h.isBlank⟩)
  exact congrArg (join ", ") hplain

theorem takeWhile_text (h : CallHeader) (rest : Text) : (h.text ++ rest).takeWhile isSpace = [] := by
  obtain ⟨d, u, hu⟩ := exists_cons_of_ne_nil h.isSymbol_target.1
  have hd : isSpace d = false := isSpace_of_symbolChar (h.isSymbol_target.2 d (by simp [hu]))
  rw [CallHeader.text, CallHeader.subject, hu]
  simp [hd]

theorem readFunction_lines (b : Callback) (more : List Text) (s : NameSupply) :
    ∃ anonymous q, b.Argument q ∧ readFunction (unlines (b.lines ++ more)) s =
      .ok (⟨(named (unlines (b.lines ++ more)) s).1, anonymous, q ++ "='__None'", trimEnd b.inner, []⟩,
        (named (unlines (b.lines ++ more)) s).2) := by
  obtain ⟨m, hm, hq⟩ := b.search?_functionArguments (b.inner ++ '}' :: (");" ++ behind more))
  have hbody := firstBraced?_of_not_mem (");" ++ behind more) (not_mem_header b.toCallHeader).1
    (BracesMatch.of_not_mem (b.not_mem_inner (c := '{') (by decide)) (b.not_mem_inner (by decide)))
  have hindent : (unlines (b.lines ++ more)).takeWhile isSpace = [] := by
    rw [unlines_lines]
    exact takeWhile_text _ _
  have hargument : b.Argument (m.group 1 ++ m.group 2) := hq
  rw [← unlines_lines] at hm hbody
  refine ⟨(functionName.search? (unlines (b.lines ++ more))).isNone, _, hargument, ?_⟩
  rw [readFunction_eq, hbody, argumentsIn, hm, ← hargument.arguments, hindent]
  rfl

theorem given_named (h : ∀ l ∈ ls, Braced P l) (s : NameSupply) : Given (named (unlines ls) s).1 := by
  unfold named
  split
  · next m hm => exact .inr (search?_functionName (Braced.unlines h).headed hm).2
  · exact .inl ⟨s, rfl⟩

theorem convertLines_lines (b : Callback) (more : List Text) (s : NameSupply) :
    ∃ q, b.Argument q ∧ callback.convertLines (b.lines ++ more) s =
      .ok (b.definition (named (unlines (b.lines ++ more)) s).1 q ++ '\n' ::
        replace (insideParens (unlines (b.lines ++ more))) (named (unlines (b.lines ++ more)) s).1
          (unlines (b.lines ++ more)),
        (named (unlines (b.lines ++ more)) s).2) := by
  obtain ⟨anonymous, q, hq, hread⟩ := b.readFunction_lines more s
  refine ⟨q, hq, ?_⟩
  rw [convertLines_of_read hread]
  unfold definition
  simp [FunctionParts.definition]

theorem convertLines_alone (b : Callback) (s : NameSupply) : ∃ q, b.Argument q ∧ callback.convertLines b.lines s =
      .ok (b.definition (named (unlines b.lines) s).1 q ++ '\n' :: b.call (named (unlines b.lines) s).1,
        (named (unlines b.lines) s).2) := by
  obtain ⟨q, hq, hconvert⟩ := b.convertLines_lines [] s
  rw [append_nil] at hconvert
  refine ⟨q, hq, hconvert.trans ?_⟩
  have hinside : insideParens (unlines b.lines) = b.handed := by
    have := b.insideParens_lines []
    rw [append_nil] at this
    rw [this]
    exact append_nil _
  have hfront : '{' ∉ "function(" ++ b.parameter ++ ") " := by
    have hparameter : '{' ∉ b.parameter := b.isSymbol_parameter.not_mem rfl
    simp [hparameter]
  have hsubject : '{' ∉ b.subject ++ ".map(" := by
    have hsubject : '{' ∉ b.subject := b.not_mem_subject rfl (by decide)
    simp [hsubject]
  have htext : unlines b.lines = (b.subject ++ ".map(") ++ (b.handed ++ ");") := by
    have := b.unlines_lines []
    rw [append_nil] at this
    rw [this]
    unfold handed
    simp [CallHeader.text, behind]
  rw [hinside, htext]
  unfold handed
  rw [replace_once _ hfront hsubject (by decide), call]

theorem convertLines_followed (b : Callback) {more : List Text} (s : NameSupply)
    (hmore : ∀ l ∈ b.lines ++ more, Braced P l) (hkept : insideParensFrom 0 (behind more) ≠ []) :
    ∃ q, b.Argument q ∧ callback.convertLines (b.lines ++ more) s =
      .ok (b.definition (named (unlines (b.lines ++ more)) s).1 q ++ '\n' :: unlines (b.lines ++ more),
        (named (unlines (b.lines ++ more)) s).2) := by
  obtain ⟨q, hq, hconvert⟩ := b.convertLines_lines more s
  refine ⟨q, hq, hconvert.trans ?_⟩
  obtain ⟨e, kept, he⟩ := exists_cons_of_ne_nil hkept
  have hnot : ¬b.handed ++ e :: kept <:+: unlines (b.lines ++ more) := by
    rintro ⟨x, y, hxy⟩
    have hcut : unlines (b.lines ++ more) =
        (x ++ ("function(" ++ b.parameter ++ ") " ++ '{' :: b.inner)) ++ '}' :: (e :: (kept ++ y)) := by
      rw [← hxy]
      unfold handed
      simp
    have hhead := (Braced.unlines hmore).paired _ _ hcut
    have hfirst := @head_insideParensFrom (behind more) 0 (by decide)
    rw [he] at hfirst
    exact hfirst hhead
  rw [b.insideParens_lines, he, replace_of_not_occurs (by simp) hnot]

/-! ### What becomes of a callback -/

theorem not_mem_definition (hname : Given name) (hq : b.Argument q)
    (hc : c ∈ ['{', '}']) : c ∉ b.definition name q := by
  have hcase : c = '{' ∨ c = '}' := by simpa using hc
  have hargument : c ∉ q := by
    rcases hcase with rfl | rfl <;> exact hq.not_mem rfl (by decide)
  have hinner : c ∉ trimEnd b.inner := fun hmem => by
    refine b.not_mem_inner ?_ (trimEnd_subset _ hmem)
    rcases hcase with rfl | rfl <;> decide
  have hfixed : c ∉ "def ".toList ++ "(".toList ++ "='__None'):".toList := by
    rcases hcase with rfl | rfl <;> decide
  have hgiven := hname.not_mem hc
  unfold definition
  simp only [mem_append, not_or] at hfixed ⊢
  exact ⟨⟨⟨⟨⟨hfixed.1.1, hgiven⟩, hfixed.1.2⟩, hargument⟩, hfixed.2⟩, hinner⟩

theorem not_mem_call (hname : Given name) (hc : c ∈ ['{', '}']) : c ∉ b.call name := by
  have hcase : c = '{' ∨ c = '}' := by simpa using hc
  have hsubject : c ∉ b.subject := by
    rcases hcase with rfl | rfl <;> exact b.not_mem_subject rfl (by decide)
  have hfixed : c ∉ ".map(".toList ++ ");".toList := by
    rcases hcase with rfl | rfl <;> decide
  have hgiven := hname.not_mem hc
  simp only [call, mem_append, not_or] at hfixed ⊢
  exact ⟨⟨⟨hsubject, hfixed.1⟩, hgiven⟩, hfixed.2⟩

theorem braced_below {u : Text} (ht : Braced P t) (hu : Braced P u) : Braced P (t ++ '\n' :: u) := by
  have hlines : Braced P (unlines [t, u]) :=
    Braced.unlines (forall_mem_cons.mpr ⟨ht, forall_mem_singleton.mpr hu⟩)
  have hsplit : unlines [t, u] = t ++ '\n' :: u := append_assoc t ['\n'] u
  exact hsplit ▸ hlines

theorem braced_definition (hname : Given name) (hq : b.Argument q) : Braced P (b.definition name q) :=
  Braced.of_not_mem (not_mem_definition hname hq (by decide)) (not_mem_definition hname hq (by decide))

theorem encloses_converted (hname : Given name) (hq : b.Argument q) (rest : Text) :
    Encloses (b.definition name q ++ rest) := by
  obtain ⟨d, q', rfl, hd⟩ : ∃ d q', q = d :: q' ∧ d ≠ ')' := by
    rcases hq with rfl | ⟨-, rfl⟩
    · obtain ⟨d, q', hq'⟩ := exists_cons_of_ne_nil b.isSymbol_parameter.1
      refine ⟨d, q', hq', fun heq => b.isSymbol_parameter.not_mem (c := ')') rfl ?_⟩
      rw [hq', heq]
      exact mem_cons_self
    · exact ⟨'f', _, rfl, by decide⟩
  have hsplit : b.definition name (d :: q') ++ rest =
      "def " ++ name ++ '(' :: d :: (q' ++ "='__None'):" ++ trimEnd b.inner ++ rest) := by
    unfold definition
    simp
  rw [hsplit]
  exact encloses_definition _ hname hd

end Callback

end Geoscript.Script
