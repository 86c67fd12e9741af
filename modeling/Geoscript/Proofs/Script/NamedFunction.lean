import Geoscript.Proofs.Script.BracedText
import Geoscript.Proofs.Script.CallHeader

/-! Functions with a name. In a text that is one such function the patterns for name, arguments and body find the same
header (`front_of_read`). A name that does not start with an ASCII character is read with the blank before it. -/

namespace Geoscript.Script
open List Text Pattern

/-- A function with a name: its indentation, its name, its parameters and what stands in its braces. -/
structure NamedFunction where
  indent : Nat
  name : Text
  parameters : List Text
  body : Text
  isSymbol_name : IsSymbol name
  two_le_length : 2 ≤ name.length
  isSymbol_parameter : ∀ p ∈ parameters, IsSymbol p
  body_break : body.head? = some '\n'
  body_braces : BracesMatch body
  body_word : ¬"function" <:+: body
  body_equals : '=' ∉ body

namespace NamedFunction
variable {f : NamedFunction}

def front (f : NamedFunction) : Text :=
  replicate f.indent ' ' ++ ("function " ++ f.name)

def list (f : NamedFunction) : Text :=
  join ", " f.parameters

def text (f : NamedFunction) : Text :=
  f.front ++ '(' :: (f.list ++ ')' :: ' ' :: '{' :: (f.body ++ ['}']))

theorem solid_of_isSymbol {t : Text} (h : IsSymbol t) : Solid t := fun c hc =>
  isSpace_of_symbolChar (h.2 c hc)

theorem nonSpace_name (f : NamedFunction) : ∀ c ∈ f.name, CharSet.nonSpace.has c := by
  intro c hc
  rw [nonSpace_has, solid_of_isSymbol f.isSymbol_name c hc]
  rfl

theorem not_mem_front (f : NamedFunction) {c : Char} (hc : symbolChar c = false) (hfixed : c ∉ " function".toList) :
    c ∉ f.front := by
  intro hmem
  rcases mem_append.mp hmem with hmem | hmem
  · exact hfixed (eq_of_mem_replicate hmem ▸ by decide)
  · rcases mem_append.mp hmem with hmem | hmem
    · exact hfixed (by revert hmem; simp; tauto)
    · exact f.isSymbol_name.not_mem hc hmem

theorem not_mem_list (f : NamedFunction) {c : Char} (hc : symbolChar c = false) (hfixed : c ∉ ", ".toList) :
    c ∉ f.list := by
  intro hmem
  rcases mem_join hmem with hmem | ⟨p, hp, hmem⟩
  · exact hfixed hmem
  · exact (f.isSymbol_parameter p hp).not_mem hc hmem

theorem not_word_behind (f : NamedFunction) : ¬"function" <:+: ' ' :: '{' :: (f.body ++ ['}']) := by
  have hnil : ¬"function".toList <:+: [] := by simp
  have hopen := infix_append_cons_iff (c := '{') (o := "function") (a := [' ']) (b := f.body ++ ['}']) (by decide)
  have hclose := infix_append_cons_iff (c := '}') (o := "function") (a := f.body) (b := []) (by decide)
  have hblank : ¬"function" <:+: [' '] := fun h => absurd h.length_le (by decide)
  rw [show ' ' :: '{' :: (f.body ++ ['}']) = [' '] ++ '{' :: (f.body ++ ['}']) from rfl, hopen, hclose]
  rintro (h | h | h)
  · exact hblank h
  · exact f.body_word h
  · exact hnil h

/-! ### The header -/

theorem front_of_read {x y z : Text} (hy : WordRead y) (h : x ++ y ++ '(' :: z = f.text) :
    x ++ y = f.front ∧ z = f.list ++ ')' :: ' ' :: '{' :: (f.body ++ ['}']) := by
  refine (cut_eq_or_behind (f.not_mem_front rfl (by decide)) h).resolve_right ?_
  rintro ⟨mid, hread, hmid⟩
  have hlist : '(' ∉ f.list ++ ") \x7b" := by
    rw [mem_append, not_or]
    exact ⟨f.not_mem_list rfl (by decide), by decide⟩
  obtain ⟨m, rfl, -⟩ := cut_right (b := f.body ++ ['}']) hlist (by rw [← hmid]; simp)
  obtain ⟨v, rfl⟩ : ∃ v, y = "function" ++ v := by
    obtain ⟨u₁, u₂, u₃, d, -, -, -, -, rfl⟩ := hy
    exact ⟨_, by rw [append_assoc, append_assoc]⟩
  have hword : x ++ "function" ++ (v ++ '(' :: z) =
      (f.front ++ '(' :: f.list) ++ ')' :: ' ' :: '{' :: (f.body ++ ['}']) := by
    simpa [text] using h
  obtain ⟨w, hw, -⟩ := exists_of_word_before (by decide) f.not_word_behind hword
  have hover : x ++ ("function" ++ v) = x ++ (("function" ++ w) ++ ')' :: ' ' :: '{' :: m) := by
    have := congrArg (· ++ ')' :: ' ' :: '{' :: m) hw
    rw [hread]
    simpa using this
  exact CallHeader.not_read_over_blank hy (append_cancel_left hover)

theorem exists_start (f : NamedFunction) : ∃ cur, (Cursor.start f.text).Over (replicate f.indent ' ') cur ∧
    cur.after = "function" ++ ' ' :: (f.name ++ '(' :: (f.list ++ ')' :: ' ' :: '{' :: (f.body ++ ['}']))) :=
  Cursor.exists_over (by simp [text, front, Cursor.start])

/-! ### The name -/

theorem nameTail_isSome {calls : Nat → Matcher} {c : Cursor} {k : Continuation} {d : Char} {u rest : Text}
    (hk : ∀ c' caps, (k c' caps).isSome) (hd : ascii.has d) (hu : u ≠ [])
    (hset : ∀ c ∈ u, CharSet.nonSpace.has c)
    (hafter : c.after = d :: (u ++ '(' :: (f.list ++ ')' :: ' ' :: '{' :: rest))) :
    (matcher calls .forward nameTail c [] k).isSome := by
  simp only [nameTail, Pattern.all, matcher_seq, matcher_group]
  rw [matcher_one _ _ hafter, if_pos hd]
  refine run_isSome (u := u) (length_pos_iff.mpr hu) hset rfl ?_
  refine run_isSome_nil (lit_isSome rfl ?_)
  refine run_isSome (u := f.list) (Nat.zero_le _) ?_ rfl (lit_isSome rfl ?_)
  · exact inLine_of_not_mem (f.not_mem_list rfl (by decide))
  · exact run_isSome (u := " ") (Nat.zero_le _) space_has_blank rfl (lit_isSome rfl (hk _ _))

def readName (f : NamedFunction) : Text :=
  if f.name.head?.any ascii.has then f.name else ' ' :: f.name

theorem solid_tail_readName (f : NamedFunction) : Solid f.readName.tail := by
  have hsolid := solid_of_isSymbol f.isSymbol_name
  rw [readName]
  split
  · exact fun c hc => hsolid c (mem_of_mem_tail hc)
  · exact hsolid

/-- The blank behind the word is read before the name, unless the name would have to start with it. -/
theorem matcher_nameTail {calls : Nat → Matcher} {c : Cursor} {k : Continuation} {rest : Text}
    (hk : ∀ c' caps, (k c' caps).isSome)
    (hafter : c.after = ' ' :: (f.name ++ '(' :: (f.list ++ ')' :: ' ' :: '{' :: rest))) :
    ∃ c' u, c.Over u c' ∧ Blanks u ∧ c'.after = f.readName ++ '(' :: (f.list ++ ')' :: ' ' :: '{' :: rest) ∧
      matcher calls .forward (.seq .blanks nameTail) c [] k = matcher calls .forward nameTail c' [] k ∧
      (matcher calls .forward nameTail c' [] k).isSome := by
  obtain ⟨d, n, hname⟩ := exists_cons_of_ne_nil f.isSymbol_name.1
  have hset := f.nonSpace_name
  have hd : CharSet.space.has d = false := by
    rw [space_has]
    exact solid_of_isSymbol f.isSymbol_name d (by simp [hname])
  by_cases hascii : ascii.has d
  · have hread : f.readName = f.name := by simp [readName, hname, hascii]
    have hn : n ≠ [] := by
      rintro rfl
      simpa [hname] using f.two_le_length
    have hsome : (matcher calls .forward nameTail
        ⟨' ' :: c.before, f.name ++ '(' :: (f.list ++ ')' :: ' ' :: '{' :: rest), c.pos + 1⟩ [] k).isSome :=
      nameTail_isSome (f := f) hk hascii hn (fun c hc => hset c (by simp [hname, hc])) (by simp [hname]; rfl)
    refine ⟨⟨' ' :: c.before, _, c.pos + 1⟩, " ", ⟨hafter, rfl, rfl⟩, isSpace_of_space space_has_blank,
      by rw [hread]; rfl, ?_, hsome⟩
    rw [matcher_seq]
    exact longest_of_after (u := " ") (Nat.zero_le _) space_has_blank (by simp [hname, hd]) hafter hsome
  · have hread : f.readName = ' ' :: f.name := by simp [readName, hname, hascii]
    have hsome : (matcher calls .forward nameTail c [] k).isSome :=
      nameTail_isSome hk rfl f.isSymbol_name.1 hset hafter
    refine ⟨c, [], .refl c, by simp [Blanks], by rw [hread, hafter]; rfl, ?_, hsome⟩
    have hnone : matcher calls .forward nameTail
        ⟨' ' :: c.before, d :: (n ++ '(' :: (f.list ++ ')' :: ' ' :: '{' :: rest)), c.pos + 1⟩ [] k = none := by
      simp only [nameTail, Pattern.all, matcher_seq, matcher_group]
      rw [matcher_one _ _ rfl, if_neg hascii]
    obtain ⟨before, after, pos⟩ := c
    obtain rfl : after = _ := hafter
    rw [matcher_seq, blanks, Pattern.star, matcher_longest, hname]
    simp [runLongest, hd, space_has, allowsMore, hnone]

theorem matchAt_functionName {cur : Cursor} (depth : Nat)
    (hcur : (Cursor.start f.text).Over (replicate f.indent ' ') cur)
    (hafter : cur.after = "function" ++ ' ' ::
      (f.name ++ '(' :: (f.list ++ ')' :: ' ' :: '{' :: (f.body ++ ['}'])))) :
    ∃ m, functionName.matchAt depth false cur = some m ∧ m.group 1 = f.readName := by
  obtain ⟨c', u, hover, hu, hafter', heq, hsome⟩ := @matcher_nameTail f (calls functionName depth)
    ⟨"function".toList.reverse ++ cur.before, _, cur.pos + "function".toList.length⟩
    (stopAt false cur.pos) _ (fun _ _ => rfl) rfl
  obtain ⟨e, he⟩ := Option.isSome_iff_exists.mp hsome
  have hread : matcher (calls functionName depth) .forward functionName cur [] (stopAt false cur.pos) = some e := by
    show matcher _ .forward (.seq (.lit "function") (.seq .blanks nameTail)) cur [] _ = _
    rw [matcher_seq, lit_of_after hafter, heq, he]
  obtain ⟨b, hreads, hb⟩ := reads_of_matcher (sound_calls functionName _) he
  obtain ⟨u₂, u₃, u₄, u₅, rest, d, s, hd, hu₂, hu₃, -, -, htail, hcaps, hs⟩ := nameTail_reads hreads
  obtain rfl : ⟨b.1, b.2⟩ = e := Option.some.inj hb
  refine ⟨⟨cur, b.1, b.2⟩, by rw [matchAt, hread], ?_⟩
  have hgroup : Match.group ⟨cur, b.1, b.2⟩ 1 = d :: u₂ := by simp [Match.group, hcaps, hs]
  have hahead := hover.after
  rw [htail] at hahead
  obtain ⟨-, hz⟩ := front_of_read (f := f) (x := replicate f.indent ' ') (z := u₄ ++ ')' :: u₅ ++ '{' :: rest)
    ⟨u, u₂, u₃, d, hu, hd, hu₂, hu₃, rfl⟩
    (by rw [show f.text = _ from hcur.after, hafter, show ' ' :: _ = _ from hahead]; simp)
  have hname : (d :: u₂) ++ u₃ = f.readName := by
    have := htail.symm.trans hafter'
    rw [← hz] at this
    exact append_cancel_right (by simpa using this)
  have hnil : u₃ = [] := by
    refine hu₃.eq_nil f.solid_tail_readName ?_
    rw [← hname]
    simp
  rw [hgroup, ← hname, hnil, append_nil]

theorem search?_functionName (f : NamedFunction) :
    ∃ m, functionName.search? f.text = some m ∧ m.group 1 = f.readName := by
  obtain ⟨cur, hcur, hafter⟩ := f.exists_start
  obtain ⟨m, hm, hgroup⟩ := matchAt_functionName (f.text.length + 1) hcur hafter
  refine ⟨m, search?_of_first hcur hm fun v w c₁ hvw hw hc₁ => ?_, hgroup⟩
  -- a place in the indentation has a blank ahead
  cases hnone : functionName.matchAt (f.text.length + 1) false c₁ with
  | none => rfl
  | some m' =>
    obtain ⟨-, m₁, ⟨hword, -⟩, -⟩ := reads_of_matchAt hnone
    obtain ⟨e, w, rfl⟩ := exists_cons_of_ne_nil hw
    have he : e ∈ replicate f.indent ' ' := by rw [hvw]; simp
    have hahead : c₁.after = e :: w ++ cur.after := by
      have := hc₁.after.symm.trans hcur.after
      rw [hvw, append_assoc] at this
      exact append_cancel_left this
    have hhead := (cons.inj (hword.after.symm.trans hahead)).1
    exact absurd (hhead.trans (eq_of_mem_replicate he)) (by decide)

/-! ### The arguments -/

theorem list_of_arguments {R : Nat → Cursor → Cursor → Prop} {m : Match} {x : Text}
    (hx : x ++ m.start.after = f.text) (hreads : Reads R functionArguments (m.start, []) (m.stop, m.captures)) :
    ∃ u v, Blanks u ∧ Blanks v ∧ m.group 1 ++ m.group 2 ≠ [] ∧ u ++ (m.group 1 ++ m.group 2) ++ v = f.list := by
  obtain ⟨y, u, v, z, hu, hv, hne, hclose, hafter, hy⟩ := functionArguments_reads hreads
  have hread : x ++ y ++ '(' :: (u ++ (m.group 1 ++ m.group 2) ++ v ++ ')' :: z) = f.text := by
    rw [← hx, hafter, append_assoc]
  have hcut : u ++ (m.group 1 ++ m.group 2) ++ v ++ ')' :: z = f.list ++ ')' :: ' ' :: '{' :: (f.body ++ ['}']) := by
    rcases hy with rfl | hy
    · rcases cut_eq_or_behind (f.not_mem_front rfl (by decide)) hread with ⟨-, hz⟩ | ⟨mid, hmid, hz⟩
      · exact hz
      · -- a parenthesis behind the word would stand among the parameters
        obtain ⟨y, -, rfl⟩ := cut_left (by decide) hmid
        obtain ⟨w, hw, hopen⟩ := exists_of_word_before (by decide) f.not_word_behind hz.symm
        cases w with
        | nil => exact absurd (cons.inj hopen).1 (by decide)
        | cons e w =>
          obtain ⟨rfl, -⟩ := cons.inj hopen
          exact absurd (by rw [hw]; simp) (f.not_mem_list (c := '(') rfl (by decide))
    · exact (front_of_read hy hread).2
  exact ⟨u, v, hu, hv, hne, (cut_unique (f.not_mem_list rfl (by decide)) hclose hcut).1⟩

theorem list_eq_nil_iff : f.list = [] ↔ f.parameters = [] := by
  constructor
  · intro hnil
    have hlength := length_le_join ", " fun p hp => (f.isSymbol_parameter p hp).1
    rw [← list, hnil] at hlength
    exact length_eq_zero_iff.mp (Nat.le_zero.mp hlength)
  · intro hnil
    rw [list, hnil]
    rfl

theorem found_functionArguments (h : f.parameters ≠ []) : functionArguments.found f.text := by
  obtain ⟨cur, hcur, hafter⟩ := f.exists_start
  refine found_of_matchAt hcur fun depth => matchAt_isSome (either_isSome_left ?_)
  simp only [Pattern.all, matcher_seq, matcher_group]
  -- the blank behind the word is an ASCII character
  refine lit_isSome hafter (run_isSome_nil ?_)
  rw [matcher_one _ _ rfl, if_pos (by decide)]
  refine run_isSome (u := f.name) (Nat.zero_le _) f.nonSpace_name rfl ?_
  refine run_isSome_nil (lit_isSome rfl ?_)
  refine run_isSome_nil ?_
  refine run_isSome (u := f.list) (length_pos_iff.mpr (list_eq_nil_iff.not.mpr h)) (fun c hc => ?_) rfl ?_
  · have hclose : c ≠ ')' := fun heq => f.not_mem_list rfl (by decide) (heq ▸ hc)
    simp [CharSet.except, CharSet.has, CharClass.covers, hclose]
  refine run_isSome_nil (lit_isSome rfl ?_)
  exact run_isSome (u := " ") (Nat.zero_le _) space_has_blank rfl (lit_isSome rfl rfl)

theorem solid_ends_join {sep : Text} {ps : List Text} (h : ∀ p ∈ ps, p ≠ [] ∧ Solid p) :
    (∀ c ∈ (join sep ps).head?, isSpace c = false) ∧ ∀ c ∈ (join sep ps).getLast?, isSpace c = false := by
  induction ps with
  | nil => simp [join]
  | cons p ps ih =>
    rw [forall_mem_cons] at h
    obtain ⟨⟨hne, hsolid⟩, hps⟩ := h
    have hfirst : ∀ c ∈ p.head?, isSpace c = false := fun c hc => hsolid c (mem_of_mem_head? hc)
    by_cases hnil : ps = []
    · subst hnil
      exact ⟨hfirst, fun c hc => hsolid c (mem_of_mem_getLast? hc)⟩
    · have hrest : join sep ps ≠ [] := by
        have hlength := length_le_join sep fun q hq => (hps q hq).1
        have hpos := length_pos_iff.mpr hnil
        exact length_pos_iff.mp (by omega)
      rw [join_cons _ _ hnil, getLast?_append_of_ne_nil _ hrest, append_assoc, head?_append_of_ne_nil _ hne]
      exact ⟨hfirst, (ih hps).2⟩

theorem argumentsIn_text (f : NamedFunction) :
    argumentsIn f.text = join ", " (f.parameters.map (· ++ "='__None'")) := by
  rw [argumentsIn]
  cases hm : functionArguments.search? f.text with
  | none =>
    have hnil : f.parameters = [] := by
      by_contra hne
      simpa [found, hm] using found_functionArguments hne
    rw [hnil]
    rfl
  | some m =>
    obtain ⟨x, R, hx, hreads⟩ := reads_of_search? hm
    obtain ⟨u, v, hu, hv, hne, hlist⟩ := list_of_arguments hx.symm hreads
    have hparameters : f.parameters ≠ [] := by
      intro hnil
      have hempty := list_eq_nil_iff.mpr hnil
      rw [← hlist, append_eq_nil_iff, append_eq_nil_iff] at hempty
      exact hne hempty.1.2
    have hends : (∀ c ∈ f.list.head?, isSpace c = false) ∧ ∀ c ∈ f.list.getLast?, isSpace c = false :=
      solid_ends_join fun p hp => ⟨(f.isSymbol_parameter p hp).1, solid_of_isSymbol (f.isSymbol_parameter p hp)⟩
    rw [← hlist] at hends
    have hu : u = [] := by
      cases u with
      | nil => rfl
      | cons c u => exact absurd ((hu c mem_cons_self).symm.trans (hends.1 c rfl)) (by decide)
    have hv : v = [] := by
      rcases eq_nil_or_concat' v with rfl | ⟨v, c, rfl⟩
      · rfl
      · exact absurd ((hv c (by simp)).symm.trans (hends.2 c (by simp))) (by decide)
    rw [hu, hv, nil_append, append_nil] at hlist
    have hplain := map_optionalArgument hparameters fun p hp => ⟨(f.isSymbol_parameter p hp).1,
      (f.isSymbol_parameter p hp).not_mem rfl, (f.isSymbol_parameter p hp).not_mem rfl,
      fun c hc => isBlank_of_symbolChar ((f.isSymbol_parameter p hp).2 c hc)⟩
    simp only [hlist, list, hplain]

/-! ### The function -/

/-- The function under a name, with the text it becomes. -/
def converted (f : NamedFunction) (name : Text) : ConvertedFunction where
  name := name
  anonymous := false
  arguments := join ", " (f.parameters.map (· ++ "='__None'"))
  body := trimEnd f.body
  indent := replicate f.indent ' '
  text := replicate f.indent ' ' ++ "def " ++ name ++ "(" ++
    join ", " (f.parameters.map (· ++ "='__None'")) ++ "):" ++ trimEnd f.body ++ "\n"

theorem convertFunction_text (f : NamedFunction) (s : NameSupply) :
    convertFunction f.text s = .ok (f.converted f.readName, s) := by
  obtain ⟨m, hm, hgroup⟩ := f.search?_functionName
  have hnamed : named f.text s = (f.readName, s) := by
    rw [named, hm, ← hgroup]
  have hbody : firstBraced? f.text = some f.body := by
    have hfront : '{' ∉ f.front ++ '(' :: (f.list ++ ") ") := by
      have h₁ := f.not_mem_front (c := '{') rfl (by decide)
      have h₂ := f.not_mem_list (c := '{') rfl (by decide)
      simp [h₁, h₂]
    have := firstBraced?_of_not_mem [] hfront f.body_braces
    simpa [text] using this
  have hindent : f.text.takeWhile isSpace = replicate f.indent ' ' := by
    rw [text, front, append_assoc, takeWhile_append_of_pos fun c hc => eq_of_mem_replicate hc ▸ rfl]
    simp [show isSpace 'f' = false from rfl]
  have htarget : functionTarget.search? f.text = none := by
    have hequals : '=' ∉ f.text := by
      have h₁ := f.not_mem_front (c := '=') rfl (by decide)
      have h₂ := f.not_mem_list (c := '=') rfl (by decide)
      simp [text, h₁, h₂, f.body_equals]
    rw [Option.eq_none_iff_forall_ne_some]
    intro m hm
    obtain ⟨x, R, hx, m₁, ⟨rfl, -⟩, m₂, ⟨caps, ⟨n₁, ⟨u, -, -, hu, -⟩, n₂, ⟨hdot, -⟩, v, -, -, hv, -⟩, -⟩, m₃,
      ⟨d, -, hspace, -⟩, m₄, ⟨hequal, -⟩, -⟩ := reads_of_search? hm
    rw [((((hu.trans hdot).trans hv).trans hspace).trans hequal).after] at hx
    exact hequals (hx ▸ by simp)
  have hread : readFunction f.text s = .ok (⟨f.readName, false,
      join ", " (f.parameters.map (· ++ "='__None'")), trimEnd f.body, replicate f.indent ' '⟩, s) := by
    rw [readFunction_eq, hbody, hnamed, argumentsIn_text, hindent, hm]
    rfl
  show Except.bind (readFunction f.text s) _ = _
  rw [hread]
  simp only [Except.bind, htarget]
  rfl

/-- A function with a name is converted whole, and no name is drawn, exactly if its name starts with an ASCII
character. -/
theorem converted_whole_iff (f : NamedFunction) (s : NameSupply) :
    convertFunction f.text s = .ok (f.converted f.name, s) ↔ f.name.head?.any ascii.has := by
  rw [convertFunction_text, readName]
  split
  · next h => simp [h]
  · next h =>
    have hne : ' ' :: f.name ≠ f.name := fun heq => absurd (congrArg length heq) (by simp)
    simp [h, converted, hne]

/-- A function of one line without parameters. -/
def one (name : Text) (isSymbol : IsSymbol name) (two_le : 2 ≤ name.length) : NamedFunction where
  indent := 0
  name := name
  parameters := []
  body := "\n    return 1;\n"
  isSymbol_name := isSymbol
  two_le_length := two_le
  isSymbol_parameter := by simp
  body_break := rfl
  body_braces := .of_not_mem (by decide) (by decide)
  body_word h := absurd (has_iff.mpr h) (by decide)
  body_equals := by decide

theorem accented_name_misread : convertFunction (one "ea" (by decide) (by decide)).text {} =
      .ok ((one "ea" (by decide) (by decide)).converted "ea", {}) ∧
    convertFunction (one "éa" (by decide) (by decide)).text {} ≠
      .ok ((one "éa" (by decide) (by decide)).converted "éa", {}) :=
  ⟨(converted_whole_iff _ _).mpr (by decide), fun h => absurd ((converted_whole_iff _ _).mp h) (by decide)⟩

end NamedFunction

end Geoscript.Script
