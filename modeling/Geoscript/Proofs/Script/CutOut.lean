import Geoscript.Proofs.Script.Callback
import Geoscript.Proofs.Script.Parenthesized
import Geoscript.Proofs.Text.Growth

/-! Functions cut out of their calls. All that stands in parentheses is searched for in one piece, so nothing is cut
out where the receiver has parentheses too (`infix_lines_iff`). Otherwise the body stands in the definition as it was,
up to blanks at its end. -/

namespace Geoscript.Script
open List Text Pattern

/-! ### Text in parentheses -/

theorem two_le_of_getLast? {t : Text} {n : Int} (h : (insideParensFrom n t).getLast? = some '(') :
    2 ≤ n + parenSurplus t := by
  induction t using reverseRecOn with
  | nil => cases h
  | append_singleton t c ih =>
    have hsum : parenSurplus (t ++ [c]) = parenSurplus t + parenStep c := by
      rw [parenSurplus, parenSurplus, parenStep_eq, count_append, count_append]
      omega
    rw [insideParensFrom_append, insideParensFrom_cons, insideParensFrom, append_nil] at h
    rw [hsum]
    split at h
    · next hkept =>
      obtain rfl : c = '(' := by simpa using h
      simp at hkept ⊢
      omega
    · next hkept =>
      rw [append_nil] at h
      have htwo := ih h
      have hone : List.count ')' [c] ≤ 1 := count_le_length
      rw [parenStep_eq]
      omega

theorem Balanced.getLast?_insideParens {t : Text} (h : Balanced t) : (insideParens t).getLast? ≠ some '(' := by
  intro hlast
  have htwo := two_le_of_getLast? hlast
  rw [h.parenSurplus_eq] at htwo
  omega

/-- Every opening parenthesis is closed at once. -/
def ParensEmpty (t : Text) : Prop :=
  AtEach '(' (fun _ b => b.head? = some ')') t

theorem ParensEmpty.insideParensFrom_eq {t : Text} {n : Int} (h : ParensEmpty t)
    (hn : n ≤ 0 ∨ n = 1 ∧ t.head? = some ')') : insideParensFrom n t = [] := by
  induction t generalizing n with
  | nil => rfl
  | cons c t ih =>
    have htail : ParensEmpty t := fun a b hab => h (c :: a) b (by rw [hab]; rfl)
    rw [insideParensFrom_cons, if_neg, nil_append]
    · refine ih htail ?_
      by_cases hopen : c = '('
      · subst hopen
        have hhead : t.head? = some ')' := h [] t rfl
        rcases hn with hn | ⟨-, hne⟩
        · by_cases hzero : n = 0
          · exact .inr ⟨by simp [hzero], hhead⟩
          · exact .inl (by simp; omega)
        · cases hne
      · rcases hn with hn | ⟨rfl, hhead⟩
        · exact .inl (by simp [parenStep, hopen]; omega)
        · obtain rfl : c = ')' := by simpa using hhead
          exact .inl (by decide)
    · rcases hn with hn | ⟨rfl, hhead⟩
      · omega
      · obtain rfl : c = ')' := by simpa using hhead
        simp

theorem insideParens_eq_nil_iff {t : Text} (h : Balanced t) : insideParens t = [] ↔ ParensEmpty t := by
  refine ⟨fun hnil a b hab => ?_, fun hempty => hempty.insideParensFrom_eq (.inl (Int.le_refl 0))⟩
  subst hab
  have hopened := h.opened a (prefix_append a _)
  have hclosed := h.closed
  rw [insideParens, insideParensFrom_append, append_eq_nil_iff, insideParensFrom_cons, append_eq_nil_iff] at hnil
  cases b with
  | nil =>
    simp at hclosed
    omega
  | cons c b =>
    by_contra hne
    have hc : c ≠ ')' := by simpa using hne
    have hkept := hnil.2.2
    rw [insideParensFrom_cons, if_pos (by simp [parenSurplus, hc]; omega)] at hkept
    simp at hkept

/-! ### Calls -/

/-- A call with a function whose body has no brackets, on any receiver of one line that closes what it opens. -/
structure ReceiverCall where
  target : Text
  receiver : Text
  parameter : Text
  body : List Text
  isSymbol_target : IsSymbol target
  isSymbol_parameter : IsSymbol parameter
  receiver_plain : ∀ c ∈ receiver, c ∉ ['\n', '{', '}']
  receiver_balanced : Balanced receiver
  body_ne_nil : body ≠ []
  body_plain : ∀ l ∈ body, ∀ c ∈ l, c ∉ ['\n', '(', ')', '{', '}']

namespace ReceiverCall
variable {b : ReceiverCall} {c : Char} {s : NameSupply}

def front (b : ReceiverCall) : Text :=
  b.target ++ " = " ++ b.receiver ++ ".map("

def header (b : ReceiverCall) : Text :=
  "function(" ++ b.parameter ++ ") "

def inner (b : ReceiverCall) : Text :=
  behind b.body ++ ['\n']

def lines (b : ReceiverCall) : List Text :=
  (b.front ++ b.header ++ ['{']) :: (b.body ++ [closingBrace])

/-- The call with a name in the place of the function. -/
def call (b : ReceiverCall) (name : Text) : Text :=
  b.front ++ name ++ ");"

theorem unlines_lines (b : ReceiverCall) :
    unlines b.lines = (b.front ++ b.header) ++ '{' :: (b.inner ++ '}' :: ");") := by
  rw [lines, unlines_cons, behind_append]
  simp [inner, closingBrace, behind]

theorem not_mem_front (b : ReceiverCall) (hc : c ∈ ['\n', '{', '}']) (hsymbol : symbolChar c = false)
    (hfixed : c ∉ " = ".toList ++ ".map(".toList) : c ∉ b.front := by
  rw [mem_append, not_or] at hfixed
  simp only [front, mem_append, not_or]
  exact ⟨⟨⟨b.isSymbol_target.not_mem hsymbol, hfixed.1⟩, fun hmem => b.receiver_plain c hmem hc⟩, hfixed.2⟩

theorem not_mem_header (b : ReceiverCall) (hsymbol : symbolChar c = false)
    (hfixed : c ∉ "function(".toList ++ ") ".toList) : c ∉ b.header := by
  rw [mem_append, not_or] at hfixed
  unfold header
  simp only [mem_append, not_or]
  exact ⟨⟨hfixed.1, b.isSymbol_parameter.not_mem hsymbol⟩, hfixed.2⟩

theorem not_mem_inner (b : ReceiverCall) (hc : c ∈ ['(', ')', '{', '}']) : c ∉ b.inner :=
  not_mem_behind (fun l hl hmem => b.body_plain l hl c hmem (mem_cons_of_mem _ hc)) fun h => absurd (h ▸ hc) (by decide)

theorem insideParens_lines (b : ReceiverCall) :
    insideParens (unlines b.lines) = insideParens b.receiver ++ (b.header ++ '{' :: (b.inner ++ ['}'])) := by
  have htarget : Unparenthesized (b.target ++ " = ") := by
    have h₁ := b.isSymbol_target.not_mem (c := '(') rfl
    have h₂ := b.isSymbol_target.not_mem (c := ')') rfl
    simp [Unparenthesized, h₁, h₂]
  have hsplit : unlines b.lines = (b.target ++ " = ") ++ (b.receiver ++ (".map" ++ '(' ::
      ("function(" ++ b.parameter ++ ") \x7b" ++ b.inner ++ "\x7d)" ++ [';']))) := by
    rw [unlines_lines]
    unfold front header
    simp
  rw [insideParens, hsplit, htarget.insideParensFrom_append, if_neg (by decide), nil_append, insideParensFrom_append,
    b.receiver_balanced.parenSurplus_eq, Int.add_zero, insideParensFrom_function _ (by decide) b.isSymbol_parameter
      ⟨b.not_mem_inner (by decide), b.not_mem_inner (by decide)⟩]
  unfold header
  simp [insideParens, insideParensFrom]

theorem infix_lines_iff (b : ReceiverCall) :
    insideParens (unlines b.lines) <:+: unlines b.lines ↔ ParensEmpty b.receiver := by
  have hfront : '{' ∉ b.front ++ b.header := by
    rw [mem_append, not_or]
    exact ⟨b.not_mem_front (by decide) rfl (by decide), b.not_mem_header rfl (by decide)⟩
  have hbehind : '{' ∉ b.inner ++ '}' :: ");" := by
    have := b.not_mem_inner (c := '{') (by decide)
    simp [this]
  rw [← insideParens_eq_nil_iff b.receiver_balanced, insideParens_lines, unlines_lines, ← append_assoc,
    infix_around_iff hfront hbehind]
  constructor
  · -- text of the receiver would stand before the function, with the parenthesis of the call at its end
    rintro ⟨⟨x, hx⟩, -⟩
    rw [← append_assoc] at hx
    have hcut : x ++ insideParens b.receiver = (b.target ++ " = " ++ b.receiver ++ ".map") ++ ['('] := by
      rw [append_cancel_right hx]
      simp [front]
    rcases eq_nil_or_concat' (insideParens b.receiver) with hnil | ⟨i, d, hi⟩
    · exact hnil
    · rw [hi, ← append_assoc] at hcut
      obtain rfl : d = '(' := singleton_inj.mp (append_inj_right' hcut rfl)
      exact absurd (by rw [hi]; simp) b.receiver_balanced.getLast?_insideParens
  · intro hnil
    rw [hnil]
    exact ⟨⟨b.front, rfl⟩, by simp⟩

/-! ### Reading the call -/

theorem exists_of_paren {y z : Text} (h : y ++ '(' :: z = unlines b.lines) :
    ∃ m, b.front ++ "function(" ++ b.parameter = y ++ '(' :: m ∧
      z = m ++ ')' :: ' ' :: '{' :: (b.inner ++ '}' :: ");") := by
  have hrest : '(' ∉ ") \x7b" ++ (b.inner ++ '}' :: ");") := by
    have := b.not_mem_inner (c := '(') (by decide)
    simp [this]
  have hsplit : (b.front ++ "function(" ++ b.parameter) ++ (") \x7b" ++ (b.inner ++ '}' :: ");")) = y ++ '(' :: z := by
    rw [h, unlines_lines]
    unfold header
    simp
  obtain ⟨m, hm, hz⟩ := cut_left hrest hsplit
  exact ⟨m, hm, by rw [hz]; simp⟩

theorem break_not_mem_before (b : ReceiverCall) : '\n' ∉ b.front ++ "function(" ++ b.parameter := by
  simp only [mem_append, not_or]
  exact ⟨⟨b.not_mem_front (by decide) rfl (by decide), by decide⟩, b.isSymbol_parameter.not_mem rfl⟩

theorem break_not_mem_named (b : ReceiverCall) (s : NameSupply) : '\n' ∉ (named (unlines b.lines) s).1 := by
  rw [named]
  cases hm : functionName.search? (unlines b.lines) with
  | none => exact not_mem_next (by decide) s
  | some m =>
    obtain ⟨x, R, hx, hreads⟩ := reads_of_search? hm
    obtain ⟨u₁, u₂, u₃, u₄, u₅, rest, d, -, -, -, -, -, -, hgroup, hafter⟩ := functionName_reads hreads
    have hread : x ++ (("function" ++ u₁) ++ (d :: u₂) ++ u₃) ++ '(' :: (u₄ ++ ')' :: u₅ ++ '{' :: rest) =
        unlines b.lines := by
      rw [hx, hafter]
      simp
    obtain ⟨z, hz, -⟩ := exists_of_paren hread
    intro hmem
    refine b.break_not_mem_before ?_
    have hname : '\n' ∈ d :: u₂ := hgroup ▸ hmem
    rw [hz]
    simp only [mem_append]
    exact .inl (.inr (.inl (.inr hname)))

theorem break_not_mem_of_read {y g z : Text} (hg : ')' ∉ g) (h : y ++ '(' :: (g ++ ')' :: z) = unlines b.lines) :
    '\n' ∉ g := by
  obtain ⟨m, hm, hz⟩ := exists_of_paren h
  have hbreak := b.break_not_mem_before
  rw [hm] at hbreak
  intro hmem
  refine hbreak ?_
  rcases cut_eq_or_behind hg hz.symm with ⟨rfl, -⟩ | ⟨mid, rfl, -⟩ <;> simp [hmem]

theorem break_not_mem_optionalArgument {t : Text} (h : '\n' ∉ t) : '\n' ∉ optionalArgument t := by
  have htrim : '\n' ∉ trim t := fun hmem => h (trim_subset t hmem)
  rw [optionalArgument]
  split
  · exact htrim
  · rw [mem_append, not_or]
    exact ⟨htrim, by decide⟩

theorem break_not_mem_argumentsIn (b : ReceiverCall) : '\n' ∉ argumentsIn (unlines b.lines) := by
  rw [argumentsIn]
  cases hm : functionArguments.search? (unlines b.lines) with
  | none => exact not_mem_nil
  | some m =>
    obtain ⟨x, R, hx, hreads⟩ := reads_of_search? hm
    obtain ⟨y, u, v, z, -, -, -, hclose, hafter, -⟩ := functionArguments_reads hreads
    have hline := break_not_mem_of_read (b := b) (y := x ++ y) (z := z) hclose (by rw [hx, hafter]; simp)
    have hgroup : '\n' ∉ m.group 1 ++ m.group 2 := fun hmem => hline (by simp only [mem_append] at hmem ⊢; tauto)
    intro hmem
    rcases mem_join hmem with hmem | ⟨p, hp, hmem⟩
    · exact absurd hmem (by decide)
    · obtain ⟨q, hq, rfl⟩ := mem_map.mp hp
      exact break_not_mem_optionalArgument (fun h => hgroup (mem_of_mem_fields hq h)) hmem

/-! ### What becomes of the call -/

def parts (b : ReceiverCall) (s : NameSupply) : FunctionParts where
  name := (named (unlines b.lines) s).1
  anonymous := (functionName.search? (unlines b.lines)).isNone
  arguments := argumentsIn (unlines b.lines)
  body := trimEnd b.inner
  indent := []

def opening (b : ReceiverCall) (s : NameSupply) : Text :=
  "def " ++ (b.parts s).name ++ "(" ++ (b.parts s).arguments ++ "):"

theorem break_not_mem_opening (b : ReceiverCall) (s : NameSupply) : '\n' ∉ b.opening s := by
  unfold opening
  simp only [mem_append, not_or]
  exact ⟨⟨⟨⟨by decide, b.break_not_mem_named s⟩, by decide⟩, b.break_not_mem_argumentsIn⟩, by decide⟩

theorem break_not_mem_call (b : ReceiverCall) (s : NameSupply) : '\n' ∉ b.call (b.parts s).name := by
  unfold call
  simp only [mem_append, not_or]
  exact ⟨⟨b.not_mem_front (by decide) rfl (by decide), b.break_not_mem_named s⟩, by decide⟩

theorem definition_parts (b : ReceiverCall) (s : NameSupply) :
    (b.parts s).definition = b.opening s ++ trimEnd b.inner ++ ['\n'] := by
  rw [FunctionParts.definition, show (b.parts s).indent = [] from rfl, nil_append]
  rfl

theorem head_target (b : ReceiverCall) : ∃ d u, b.target = d :: u ∧ symbolChar d := by
  obtain ⟨d, u, hu⟩ := exists_cons_of_ne_nil b.isSymbol_target.1
  exact ⟨d, u, hu, b.isSymbol_target.2 d (by simp [hu])⟩

theorem readFunction_lines (b : ReceiverCall) (s : NameSupply) :
    readFunction (unlines b.lines) s = .ok (b.parts s, (named (unlines b.lines) s).2) := by
  have hfront : '{' ∉ b.front ++ b.header := by
    rw [mem_append, not_or]
    exact ⟨b.not_mem_front (by decide) rfl (by decide), b.not_mem_header rfl (by decide)⟩
  have hbody : firstBraced? (unlines b.lines) = some b.inner := by
    rw [unlines_lines]
    exact firstBraced?_of_not_mem _ hfront (.of_not_mem (b.not_mem_inner (by decide)) (b.not_mem_inner (by decide)))
  have hindent : (unlines b.lines).takeWhile isSpace = [] := by
    obtain ⟨d, u, hu, hd⟩ := b.head_target
    rw [unlines_lines, front, hu]
    simp [isSpace_of_symbolChar hd]
  rw [readFunction_eq, hbody, hindent]
  rfl

theorem convertCallback_lines (b : ReceiverCall) (s : NameSupply) :
    convertCallback (unlines b.lines) s = .ok (⟨b.parts s, (b.parts s).definition ++
      replace (insideParens (unlines b.lines)) (b.parts s).name (unlines b.lines)⟩, (named (unlines b.lines) s).2) :=
  naming_bind_ok (b.readFunction_lines s)

theorem replace_cut (h : ParensEmpty b.receiver) (name : Text) :
    replace (insideParens (unlines b.lines)) name (unlines b.lines) = b.call name := by
  have hnil := (insideParens_eq_nil_iff b.receiver_balanced).mpr h
  have hsplit : unlines b.lines = b.front ++ ((b.header ++ '{' :: (b.inner ++ ['}'])) ++ ");") := by
    rw [unlines_lines]
    simp
  rw [insideParens_lines, hnil, nil_append, hsplit, replace_once name (b.not_mem_header rfl (by decide))
    (b.not_mem_front (by decide) rfl (by decide)) (by decide)]
  rfl

theorem replace_kept (h : ¬ParensEmpty b.receiver) (name : Text) :
    replace (insideParens (unlines b.lines)) name (unlines b.lines) = unlines b.lines := by
  refine replace_of_not_occurs ?_ (mt b.infix_lines_iff.mp h)
  rw [insideParens_lines]
  simp

theorem exists_behind {t : Text} (h : ∀ c ∈ t.head?, c = '\n') : ∃ ls, t = behind ls ∧ ∀ l ∈ ls, '\n' ∉ l := by
  cases t with
  | nil => exact ⟨[], rfl, by simp⟩
  | cons c t =>
    obtain rfl := h c rfl
    refine ⟨fields '\n' t, ?_, fun l hl => not_mem_of_mem_fields hl⟩
    obtain ⟨l, ls, hls⟩ := exists_cons_of_ne_nil (show fields '\n' t ≠ [] from fields_ne_nil)
    have hjoin := join_fields '\n' t
    rw [hls, show join ['\n'] (l :: ls) = _ from unlines_cons l ls] at hjoin
    rw [hls, ← hjoin]
    rfl

theorem inner_head (b : ReceiverCall) : b.inner.head? = some '\n' := by
  obtain ⟨l, ls, hls⟩ := exists_cons_of_ne_nil b.body_ne_nil
  rw [inner, hls]
  rfl

theorem exists_trimmed (b : ReceiverCall) : ∃ mid, trimEnd b.inner = behind mid ∧ ∀ l ∈ mid, '\n' ∉ l := by
  refine exists_behind fun c hc => ?_
  obtain ⟨u, hu⟩ := rdropWhile_prefix isBlank (l := b.inner)
  have hhead := b.inner_head
  rw [← hu, head?_append, show (rdropWhile isBlank b.inner).head? = some c from hc] at hhead
  exact Option.some.inj hhead

theorem lines_cut {mid : List Text} (hmid : trimEnd b.inner = behind mid) (hlines : ∀ l ∈ mid, '\n' ∉ l)
    (s : NameSupply) : Text.lines ((b.parts s).definition ++ b.call (b.parts s).name) =
      b.opening s :: (mid ++ [b.call (b.parts s).name]) := by
  have htext : (b.parts s).definition ++ b.call (b.parts s).name =
      unlines (b.opening s :: (mid ++ [b.call (b.parts s).name])) := by
    rw [definition_parts, hmid, unlines_cons, behind_append]
    simp [behind]
  rw [htext]
  refine fields_join (cons_ne_nil _ _) fun l hl => ?_
  rcases mem_cons.mp hl with rfl | hl
  · exact b.break_not_mem_opening s
  · rcases mem_append.mp hl with hl | hl
    · exact hlines l hl
    · exact mem_singleton.mp hl ▸ b.break_not_mem_call s

theorem getLast?_kept (b : ReceiverCall) (s : NameSupply) :
    (Text.lines ((b.parts s).definition ++ unlines b.lines)).getLast? = some closingBrace := by
  have hlines : Text.lines (unlines b.lines) = b.lines := by
    refine fields_join (cons_ne_nil _ _) fun l hl => ?_
    rcases mem_cons.mp hl with rfl | hl
    · simp only [mem_append, not_or]
      exact ⟨⟨b.not_mem_front (by decide) rfl (by decide), b.not_mem_header rfl (by decide)⟩, by decide⟩
    · rcases mem_append.mp hl with hl | hl
      · exact fun hmem => b.body_plain l hl _ hmem (by decide)
      · exact mem_singleton.mp hl ▸ by decide
  have hsplit : Text.lines ((b.parts s).definition ++ unlines b.lines) =
      Text.lines (b.opening s ++ trimEnd b.inner) ++ b.lines := by
    rw [definition_parts, append_assoc, singleton_append, Text.lines, fields_append_sep, ← Text.lines,
      ← Text.lines, hlines]
  rw [hsplit, lines, ← cons_append, ← append_assoc, getLast?_concat]

theorem call_ne_closingBrace (b : ReceiverCall) (name : Text) : closingBrace ≠ b.call name := by
  obtain ⟨d, u, hu, hd⟩ := b.head_target
  unfold call front closingBrace
  rw [hu]
  intro h
  obtain ⟨rfl, -⟩ := cons.inj h
  exact absurd hd (by decide)

/-- The last line of the body does not end with a blank. -/
def EndsSolid (b : ReceiverCall) : Prop :=
  ∃ l ∈ b.body.getLast?, ∃ c ∈ l.getLast?, isBlank c = false

theorem isBlank_of_getLast?_trimEnd {t : Text} {c : Char} (h : (trimEnd t).getLast? = some c) : isBlank c = false := by
  rw [getLast?_trimEnd] at h
  simpa [ink, without] using (mem_filter.mp (mem_of_mem_getLast? h)).2

theorem trimEnd_inner_iff (b : ReceiverCall) : trimEnd b.inner = behind b.body ↔ b.EndsSolid := by
  obtain ⟨ls, l, hbody⟩ := (eq_nil_or_concat' b.body).resolve_left b.body_ne_nil
  have hbehind : behind b.body = behind ls ++ '\n' :: l := by
    rw [hbody, behind_append]
    simp [behind]
  rw [inner, EndsSolid, hbody, getLast?_concat, ← hbody, hbehind]
  constructor
  · intro htrim
    refine ⟨l, rfl, ?_⟩
    rcases eq_nil_or_concat' l with rfl | ⟨u, c, rfl⟩
    · exact absurd (isBlank_of_getLast?_trimEnd (htrim ▸ getLast?_concat)) (by decide)
    · refine ⟨c, getLast?_concat, isBlank_of_getLast?_trimEnd (t := behind ls ++ '\n' :: (u ++ [c]) ++ ['\n']) ?_⟩
      rw [htrim, ← cons_append, ← append_assoc, getLast?_concat]
  · rintro ⟨_, hl, c, hc, hblank⟩
    obtain rfl := Option.some.inj hl
    obtain ⟨u, rfl⟩ := getLast?_eq_some_iff.mp hc
    have hend := trimEnd_append_cons hblank (behind ls ++ '\n' :: u) ['\n']
    simpa [trimEnd_eq_nil_iff.mpr (show Blank ['\n'] from forall_mem_singleton.mpr rfl)] using hend

theorem trimEnd_inner_eq (h : (behind b.body).length ≤ (trimEnd b.inner).length) : trimEnd b.inner = behind b.body := by
  have hprefix : trimEnd b.inner <+: behind b.body ++ ['\n'] := rdropWhile_prefix isBlank b.inner
  rcases prefix_concat_iff.mp hprefix with heq | hprefix
  · exact absurd (isBlank_of_getLast?_trimEnd (heq ▸ getLast?_concat)) (by decide)
  · exact hprefix.eq_of_length_le h

end ReceiverCall

/-- Lines that stand among others at one place. -/
def OccursOnce (block ls : List Text) : Prop :=
  ∃! front, ∃ back, ls = front ++ block ++ back

theorem exists_of_infix_between {first last : Text} {front block back mid : List Text} (hne : block ≠ [])
    (hfirst : first ∉ block) (hlast : last ∉ block) (h : first :: (mid ++ [last]) = front ++ block ++ back) :
    ∃ x y, front = first :: x ∧ mid = x ++ block ++ y := by
  cases front with
  | nil =>
    obtain ⟨l, block, rfl⟩ := exists_cons_of_ne_nil hne
    exact absurd ((cons.inj h).1 ▸ mem_cons_self) hfirst
  | cons f x =>
    obtain rfl : first = f := (cons.inj h).1
    have hrest : mid ++ [last] = x ++ block ++ back := (cons.inj h).2
    rcases eq_nil_or_concat' back with rfl | ⟨y, l, rfl⟩
    · obtain ⟨block, l, rfl⟩ := (eq_nil_or_concat' block).resolve_left hne
      rw [append_nil, ← append_assoc] at hrest
      exact absurd (by rw [singleton_inj.mp (append_inj_right' hrest rfl)]; simp) hlast
    · rw [← append_assoc] at hrest
      exact ⟨x, y, rfl, append_inj_left' hrest rfl⟩

namespace ReceiverCall
variable {b : ReceiverCall} {s : NameSupply}

theorem occursOnce_iff (b : ReceiverCall) (s : NameSupply) :
    OccursOnce b.body (Text.lines ((b.parts s).definition ++ b.call (b.parts s).name)) ↔ b.EndsSolid := by
  have hparen {l : Text} (h : '(' ∈ l) : l ∉ b.body := fun hl => b.body_plain l hl _ h (by decide)
  have hfirst : b.opening s ∉ b.body :=
    hparen (mem_append_left _ (mem_append_left _ (mem_append_right _ (by decide))))
  have hlast : b.call (b.parts s).name ∉ b.body := hparen (by simp [call, front])
  rw [← trimEnd_inner_iff]
  constructor
  · rintro ⟨front, ⟨back, hback⟩, -⟩
    obtain ⟨mid, hmid, hlines⟩ := b.exists_trimmed
    rw [lines_cut hmid hlines] at hback
    obtain ⟨x, y, -, rfl⟩ := exists_of_infix_between b.body_ne_nil hfirst hlast hback
    refine trimEnd_inner_eq ?_
    rw [hmid, behind_append, behind_append, length_append, length_append]
    omega
  · intro htrim
    rw [lines_cut htrim fun l hl hmem => b.body_plain l hl _ hmem (by decide)]
    refine ⟨[b.opening s], ⟨[b.call (b.parts s).name], by simp⟩, ?_⟩
    rintro front ⟨back, hback⟩
    obtain ⟨x, y, rfl, hx⟩ := exists_of_infix_between b.body_ne_nil hfirst hlast hback
    have hlength := congrArg length hx
    rw [length_append, length_append] at hlength
    rw [length_eq_zero_iff.mp (show x.length = 0 by omega)]

/-- A function is cut out of its call if and only if the receiver has no text in parentheses. Its body stands in the
definition as it was, once, if and only if moreover its last line does not end with a blank. -/
theorem cut_out_iff (b : ReceiverCall) (s : NameSupply) : ∃ f s', convertCallback (unlines b.lines) s = .ok (f, s') ∧
    ((Text.lines f.text).getLast? = some (b.call f.name) ↔ ParensEmpty b.receiver) ∧
    ((Text.lines f.text).getLast? = some (b.call f.name) ∧ OccursOnce b.body (Text.lines f.text) ↔
      ParensEmpty b.receiver ∧ b.EndsSolid) := by
  refine ⟨_, _, b.convertCallback_lines s, ?_⟩
  by_cases h : ParensEmpty b.receiver
  · obtain ⟨mid, hmid, hlines⟩ := b.exists_trimmed
    have hlast : (Text.lines ((b.parts s).definition ++ b.call (b.parts s).name)).getLast? =
        some (b.call (b.parts s).name) := by
      rw [lines_cut hmid hlines, ← cons_append, getLast?_concat]
    simp only [replace_cut h, hlast, h, true_and, occursOnce_iff]
  · have hlast : ¬(Text.lines ((b.parts s).definition ++ unlines b.lines)).getLast? =
        some (b.call (b.parts s).name) := by
      rw [getLast?_kept]
      exact fun heq => b.call_ne_closingBrace _ (Option.some.inj heq)
    simp only [replace_kept h, hlast, h, false_and, and_self]

/-- A call on a receiver with a function that gives back its argument. -/
def identity (receiver : Text) (plain : ∀ c ∈ receiver, c ∉ ['\n', '{', '}']) (balanced : Balanced receiver) :
    ReceiverCall where
  target := "x"
  receiver := receiver
  parameter := "e"
  body := ["    return e;"]
  isSymbol_target := by decide
  isSymbol_parameter := by decide
  receiver_plain := plain
  receiver_balanced := balanced
  body_ne_nil := by decide
  body_plain := by simp

theorem called_receiver_spoiled :
    (∃ f s', convertCallback (unlines (identity "f()" (by simp) (by decide)).lines) {} = .ok (f, s') ∧
      (Text.lines f.text).getLast? = some ("x = f().map(" ++ f.name ++ ");")) ∧
    ∃ f s', convertCallback (unlines (identity "f(a)" (by simp) (by decide)).lines) {} = .ok (f, s') ∧
      (Text.lines f.text).getLast? ≠ some ("x = f(a).map(" ++ f.name ++ ");") := by
  constructor
  · obtain ⟨f, s', hf, hlast, -⟩ := cut_out_iff (identity "f()" (by simp) (by decide)) {}
    refine ⟨f, s', hf, hlast.mpr ?_⟩
    exact (insideParens_eq_nil_iff (by decide)).mp (by decide)
  · obtain ⟨f, s', hf, hlast, -⟩ := cut_out_iff (identity "f(a)" (by simp) (by decide)) {}
    refine ⟨f, s', hf, fun h => ?_⟩
    exact absurd ((insideParens_eq_nil_iff (by decide)).mpr (hlast.mp h)) (by decide)

end ReceiverCall

end Geoscript.Script
