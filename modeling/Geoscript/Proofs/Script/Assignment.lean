import Geoscript.Proofs.Script.Attribute
import Geoscript.Proofs.Script.OneLine

/-! What the passes make of a statement that assigns one text in double quotes: they change what stands before the
equals sign and what stands in the quotes, each for itself. -/

namespace Geoscript.Script
open List Text Pattern
variable {y s t name blanks new a b : Text} {m : Match} {d : Char}

def assigned (y s : Text) : Text :=
  y ++ ' ' :: '=' :: ' ' :: '"' :: (s ++ ['"', ';'])

theorem assigned_eq (y s : Text) : assigned y s = (y ++ [' ', '=', ' ']) ++ '"' :: (s ++ ['"', ';']) := by
  simp [assigned]

theorem Free.quotable (hy : Free y) : Quotable y :=
  ⟨hy _ (by decide), hy _ (by decide), hy _ (by decide), hy _ (by decide)⟩

theorem Free.quotable_target (hy : Free y) : Quotable (y ++ [' ', '=', ' ']) := by
  obtain ⟨h₁, h₂, h₃, h₄⟩ := hy.quotable
  simp [Quotable, h₁, h₂, h₃, h₄]

theorem not_mem_assigned (hy : Free y) (hs : Quotable s) : '\n' ∉ assigned y s := by
  simp [assigned, hy.quotable.2.2.2, hs.2.2.2]

/-! ### The word `var` -/

/-- A declaration as it is read: the word, blanks and a name, and a sign that ends it. -/
theorem declaration_read (h : m ∈ declaration.occurrences t) :
    ∃ u blanks name behind rest : Text, ∃ d ∈ ['=', '|', 'i', 'n'], m.group 1 = blanks ++ name ∧ blanks ≠ [] ∧
      name ≠ [] ∧ (∀ c ∈ blanks, isSpace c) ∧ (∀ c ∈ name, nameSet.has c) ∧
      (∀ c ∈ behind, isSpace c) ∧ t = u ++ ("var" ++ (blanks ++ name)) ++ (behind ++ d :: rest) := by
  obtain ⟨u, depth, moving, hu, hm⟩ := mem_occurrences h
  obtain ⟨-, m₁, ⟨hvar, hm₁⟩, m₂, ⟨caps, ⟨m₃, ⟨blanks, hb, hblanks, hover₁, hcaps₁⟩,
    name, hn, hname, hover₂, hcaps₂⟩, hm₂⟩, m₄, ⟨w, -, hblanks', hw, hm₄⟩, ch, hset, hch, hstop⟩ := reads_of_matchAt hm
  have hover : m₁.1.Over (blanks ++ name) m₂.1 := hover₁.trans hover₂
  have hcaptures : m.captures = (1, ⟨m₁.1, m₂.1.pos⟩) :: caps := by
    have hstop : m.captures = m₄.2 := hstop
    rw [hstop, hm₄, hm₂]
  have hgroup : m.group 1 = blanks ++ name := by
    rw [Match.group, hcaptures]
    exact hover.upTo
  have hspace (c : Char) (hc : CharSet.space.has c) : isSpace c := by
    simpa [CharSet.has, CharSet.space, CharClass.covers] using hc
  refine ⟨u, blanks, name, w, m.stop.after, ch, ?_, hgroup, length_pos_iff.mp hb, length_pos_iff.mp hn,
    fun c hc => hspace c (hblanks c hc), hname, fun c hc => hspace c (hblanks' c hc), ?_⟩
  · simpa [CharSet.of, CharSet.has, CharClass.covers] using hset
  · have hstart : t = u ++ m.start.after := hu.after
    rw [hstart, hvar.after, hover.after, hw.after, hch.after]
    simp

theorem declaration_name (h : m ∈ declaration.occurrences t) :
    ∃ blanks name : Text, m.group 1 = blanks ++ name ∧ blanks ≠ [] ∧ name ≠ [] ∧
      (∀ c ∈ blanks, isSpace c) ∧ (∀ c ∈ name, nameSet.has c) ∧ "var".toList ++ m.group 1 <:+: t := by
  obtain ⟨u, blanks, name, behind, rest, d, -, hgroup, hblanks, hname, hspace, hchars, -, ht⟩ := declaration_read h
  exact ⟨blanks, name, hgroup, hblanks, hname, hspace, hchars, hgroup ▸ ⟨u, _, ht.symm⟩⟩

theorem not_reserved (h : m ∈ declaration.occurrences t) :
    (reservedWords.any fun w => w.toList == m.group 1) = false := by
  obtain ⟨blanks, name, hgroup, hblanks, -, hspace, -⟩ := declaration_name h
  have hreserved : reservedWords.all (fun w => !w.toList.head?.any isSpace) := by decide
  rw [any_eq_false]
  intro w hw heq
  have hhead := all_eq_true.mp hreserved w hw
  rw [beq_iff_eq.mp heq, hgroup] at hhead
  cases blanks with
  | nil => exact hblanks rfl
  | cons b blanks => simp [hspace b mem_cons_self] at hhead

theorem dropVar_eq (t : Text) : dropVar t = .ok (((declaration.occurrences t).map (·.group 1)).foldl
    (fun t name => if has " in " name then t
      else replace ("var" ++ name) (without (· == ' ') name) t) t) := by
  rw [dropVar, if_neg]
  rw [Bool.not_eq_true, any_eq_false]
  intro name hmem
  obtain ⟨m, hm, rfl⟩ := mem_map.mp hmem
  rw [not_reserved hm]
  exact Bool.false_ne_true

theorem free_of_names (hline : '\n' ∉ name)
    (h : ∀ c ∈ name, isSpace c ∨ nameSet.has c) : Free name := by
  have hsigns : signs.all (fun c => c == '\n' || !(isSpace c || nameSet.has c)) := by decide
  intro c hc hmem
  have hsign := all_eq_true.mp hsigns c hc
  simp only [Bool.or_eq_true, beq_iff_eq, Bool.not_eq_true', Bool.or_eq_false_iff] at hsign
  rcases hsign with rfl | ⟨hspace, hname⟩
  · exact hline hmem
  · rcases h c hmem with h | h
    · rw [h] at hspace
      cases hspace
    · rw [h] at hname
      cases hname

theorem replace_var_blank (hname : name ≠ []) (hchars : ∀ c ∈ name, nameSet.has c)
    (y : Text) : replace ("var" ++ (blanks ++ name)) new (y ++ [' ']) =
      replace ("var".toList ++ (blanks ++ name)) new y ++ [' '] := by
  have hold : "var".toList ++ (blanks ++ name) ≠ [] := by simp
  have hspace : ¬"var".toList ++ (blanks ++ name) <:+: [' '] := fun h => absurd (h.subset (by simp : 'v' ∈ _)) (by decide)
  rw [replace_append_of_border hold, replace_of_not_occurs hold hspace]
  intro x z _ hz _ hpre heq
  obtain rfl : z = [' '] := (prefix_concat_iff.mp hpre).resolve_right fun h => hz (prefix_nil.mp h)
  obtain ⟨n, d, rfl⟩ : ∃ n d, name = n ++ [d] := ⟨_, _, (dropLast_concat_getLast hname).symm⟩
  have hsplit : "var" ++ (blanks ++ (n ++ [d])) = ("var" ++ (blanks ++ n)) ++ [d] := by
    simp
  have hlast : [' '] = [d] := append_inj_right' (heq.trans hsplit) rfl
  have hd := hchars d (by simp)
  rw [← (cons.inj hlast).1] at hd
  exact absurd hd (by decide)

theorem replace_var (hname : name ≠ []) (hfree : Free (blanks ++ name))
    (hchars : ∀ c ∈ name, nameSet.has c) (hs : ¬"var".toList ++ (blanks ++ name) <:+: s) :
    replace ("var" ++ (blanks ++ name)) new (assigned y s) =
      assigned (replace ("var".toList ++ (blanks ++ name)) new y) s := by
  have hold : "var".toList ++ (blanks ++ name) ≠ [] := by simp
  have hsign : ∀ c ∈ signs, c ∉ "var" ++ (blanks ++ name) := by
    intro c hc hmem
    rcases mem_append.mp hmem with hmem | hmem
    · exact (by decide : Free "var") c hc hmem
    · exact hfree c hc hmem
  have hkept : ∀ u : Text, 'v' ∉ u → replace ("var" ++ (blanks ++ name)) new u = u :=
    fun u hu => replace_of_not_occurs hold fun h => hu (h.subset (by simp))
  have hcut : ∀ y' : Text, assigned y' s = (y' ++ [' ']) ++ '=' :: ([' '] ++ '"' :: (s ++ '"' :: [';'])) := by
    simp [assigned]
  have hequals := hsign '=' (by decide)
  have hquote := hsign '"' (by decide)
  rw [hcut, hcut, replace_append_cons hold hequals, replace_var_blank hname hchars, replace_append_cons hold hquote,
    replace_append_cons hold hquote, hkept [' '] (by decide), hkept [';'] (by decide),
    replace_of_not_occurs hold hs]

theorem declared_name (hline : '\n' ∉ t) (hm : m ∈ declaration.occurrences t)
    (hs : ¬"var".toList ++ m.group 1 <:+: s) (hy : Free y) : ∃ y', Free y' ∧
      replace ("var" ++ m.group 1) (without (· == ' ') (m.group 1)) (assigned y s) = assigned y' s := by
  obtain ⟨blanks, name, hgroup, -, hname, hspace, hchars, hpart⟩ := declaration_name hm
  have hfree : Free (m.group 1) := by
    refine free_of_names (fun h => hline (hpart.subset (mem_append_right _ h))) fun c hc => ?_
    rw [hgroup] at hc
    exact (mem_append.mp hc).imp (hspace c) (hchars c)
  rw [hgroup] at hfree hs ⊢
  refine ⟨_, ?_, replace_var hname hfree hchars hs⟩
  intro c hc hmem
  rcases mem_replace (by simp) hmem with hmem | hmem
  · exact hy c hc hmem
  · exact hfree c hc (mem_filter.mp hmem).1

/-- Dropping the word `var` leaves the quoted text alone, unless it repeats a declared name with that word. -/
theorem dropVar_assigned (hy : Free y) (hs : Quotable s)
    (hnames : ∀ m ∈ declaration.occurrences (assigned y s), ¬"var".toList ++ m.group 1 <:+: s) :
    ∃ y', Free y' ∧ dropVar (assigned y s) = .ok (assigned y' s) := by
  have hfold : ∀ ms : List Match, (∀ m ∈ ms, m ∈ declaration.occurrences (assigned y s)) → ∀ {z : Text}, Free z →
      ∃ y', Free y' ∧ (ms.map (·.group 1)).foldl (fun t name => if has " in " name then t
        else replace ("var" ++ name) (without (· == ' ') name) t) (assigned z s) = assigned y' s := by
    intro ms hms
    induction ms with
    | nil => exact fun hz => ⟨_, hz, rfl⟩
    | cons m ms ih =>
      intro z hz
      rw [forall_mem_cons] at hms
      rw [map_cons, foldl_cons]
      split
      · exact ih hms.2 hz
      · obtain ⟨z', hz', heq⟩ := declared_name (not_mem_assigned hy hs) hms.1 (hnames m hms.1) hz
        rw [heq]
        exact ih hms.2 hz'
  obtain ⟨y', hy', hdropped⟩ := hfold _ (fun _ hm => hm) hy
  refine ⟨y', hy', ?_⟩
  rw [dropVar_eq, hdropped]

/-! ### Operators and comments -/

theorem convertOperators_assigned (y s : Text) :
    convertOperators (assigned y s) = assigned (convertOperators y) (convertOperators s) := by
  have hcut := mild_convertOperators.cut
  have hequals : convertOperators ['='] = ['='] := by decide
  have hnil : convertOperators [] = [] := by decide
  have hend : convertOperators [';'] = [';'] := by decide
  have hparts : ∀ y s : Text, assigned y s = y ++ ' ' :: (['='] ++ ' ' :: ([] ++ '"' :: (s ++ '"' :: [';']))) :=
    fun _ _ => rfl
  rw [hparts, hcut ' ' (.inl rfl), hcut ' ' (.inl rfl), hcut '"' (.inr rfl), hcut '"' (.inr rfl), hequals,
    hnil, hend, hparts]

theorem found_blockComment_iff : blockComment.found t ↔ ∃ x u z, t = x ++ ('/' :: '*' :: (u ++ '*' :: '/' :: z)) := by
  constructor
  · intro h
    obtain ⟨x, depth, m, hover, hm⟩ := exists_of_found h
    obtain ⟨-, m₁, ⟨hopen, -⟩, m₂, ⟨caps, ⟨u, -, -, hinside, -⟩, -⟩, hclose, -⟩ := reads_of_matchAt hm
    refine ⟨x, u, m.stop.after, ?_⟩
    have hstart : t = x ++ m.start.after := hover.after
    have hinside : m₁.1.after = u ++ m₂.1.after := hinside.after
    rw [hstart, hopen.after, hinside, hclose.after]
    rfl
  · rintro ⟨x, u, z, rfl⟩
    obtain ⟨c, hover, hafter⟩ := @Cursor.exists_over (.start (x ++ ('/' :: '*' :: (u ++ '*' :: '/' :: z)))) x _ rfl
    refine found_of_matchAt hover fun depth => matchAt_isSome ?_
    simp only [blockComment, Pattern.all, matcher_seq, matcher_group]
    exact lit_isSome (t := ['/', '*']) hafter
      (run_isSome (Nat.zero_le _) (fun _ _ => rfl) rfl (lit_isSome (t := ['*', '/']) rfl rfl))

theorem blockComment_group (h : m ∈ blockComment.occurrences t) : m.group 1 <:+: t := by
  obtain ⟨x, depth, moving, hover, hm⟩ := mem_occurrences h
  obtain ⟨-, m₁, ⟨hopen, -⟩, m₂, ⟨caps, ⟨u, -, -, hinside, -⟩, hm₂⟩, -, hstop⟩ := reads_of_matchAt hm
  have hgroup : m.group 1 = u := by
    have hstop : m.captures = m₂.2 := hstop
    rw [Match.group, hstop, hm₂]
    exact hinside.upTo
  have hstart : t = x ++ m.start.after := hover.after
  have hinside : m₁.1.after = u ++ m₂.1.after := hinside.after
  refine ⟨x ++ "/*", m₂.1.after, ?_⟩
  rw [hgroup, hstart, hopen.after, hinside]
  simp

theorem markBlockComments_of_one (hline : '\n' ∉ t) :
    markBlockComments t = if blockComment.found t then replace ['/', '*'] ['#'] t else t := by
  unfold markBlockComments
  split
  · next hnone =>
    rw [if_neg fun h => occurrences_ne_nil h hnone]
  · next hne =>
    have hfound : blockComment.found t := by
      rw [← Bool.not_eq_false]
      exact fun h => hne (occurrences_of_not_found h)
    rw [if_pos hfound]
    refine congrArg (replace ['/', '*'] ['#']) (foldl_eq_self fun m hm => ?_)
    have hkept : replace ['\n'] "\n#" (m.group 1) = m.group 1 :=
      replace_of_not_occurs (by simp) fun h => hline ((blockComment_group hm).subset (h.subset mem_cons_self))
    rw [hkept, replace_self]

theorem found_blockComment_assigned (hy : Free y) : blockComment.found (assigned y s) = blockComment.found s := by
  rw [Bool.eq_iff_iff, found_blockComment_iff, found_blockComment_iff]
  constructor
  · rintro ⟨x, u, z, h⟩
    have hslash : '/' ∉ y ++ [' ', '=', ' ', '"'] := by
      simp [hy '/' (by decide)]
    obtain ⟨x', -, h'⟩ := cut_right hslash (by simpa [assigned] using h :
      (y ++ [' ', '=', ' ', '"']) ++ (s ++ ['"', ';']) = x ++ '/' :: ('*' :: (u ++ '*' :: '/' :: z)))
    obtain ⟨z', hz', -⟩ := cut_left (by decide : '/' ∉ ['"', ';']) (by simpa using h' :
      s ++ ['"', ';'] = (x' ++ '/' :: '*' :: (u ++ ['*'])) ++ '/' :: z)
    exact ⟨x', u, z', by simpa using hz'⟩
  · rintro ⟨x, u, z, rfl⟩
    exact ⟨y ++ ' ' :: '=' :: ' ' :: '"' :: x, u, z ++ ['"', ';'], by simp [assigned]⟩

theorem markBlockComments_assigned (hy : Free y) (hs : Quotable s) :
    markBlockComments (assigned y s) = assigned y (markBlockComments s) := by
  rw [markBlockComments_of_one (not_mem_assigned hy hs), markBlockComments_of_one hs.2.2.2,
    found_blockComment_assigned hy]
  split
  · have hy' : replace ['/', '*'] ['#'] (y ++ [' ', '=', ' ']) = y ++ [' ', '=', ' '] := by
      refine replace_of_not_occurs (by simp) fun h => ?_
      have := h.subset mem_cons_self
      simp [hy '/' (by decide)] at this
    have hend : replace ['/', '*'] ['#'] [';'] = [';'] := by decide
    rw [assigned_eq, replace_append_cons (by simp) (by decide), hy',
      show s ++ ['"', ';'] = s ++ '"' :: [';'] from rfl, replace_append_cons (by simp) (by decide), hend,
      assigned_eq]
  · rfl

theorem Quotable.markBlockComments (hs : Quotable s) : Quotable (markBlockComments s) := by
  rw [markBlockComments_of_one hs.2.2.2]
  split
  · exact hs.of_mem (by decide : Quotable ['#']) fun c hc => mem_replace (by simp) hc
  · exact hs

/-! ### Braces -/

theorem dropUnmatchedFrom_cons {c : Char} (hopen : c ≠ '{') (hclose : c ≠ '}') (depth : Nat) (t : Text) :
    dropUnmatchedFrom depth (c :: t) = c :: dropUnmatchedFrom depth t := by
  simp [dropUnmatchedFrom, hopen, hclose]

theorem dropUnmatchedFrom_open (depth : Nat) (t : Text) :
    dropUnmatchedFrom depth ('{' :: t) = '{' :: dropUnmatchedFrom (depth + 1) t := by
  cases depth <;> rfl

theorem dropUnmatchedFrom_close (depth : Nat) (t : Text) :
    dropUnmatchedFrom (depth + 1) ('}' :: t) = '}' :: dropUnmatchedFrom depth t :=
  rfl

theorem dropUnmatchedFrom_unmatched (t : Text) : dropUnmatchedFrom 0 ('}' :: t) = dropUnmatchedFrom 0 t :=
  rfl

theorem dropUnmatchedFrom_append_left (hopen : '{' ∉ a) (hclose : '}' ∉ a) (depth : Nat) (t : Text) :
    dropUnmatchedFrom depth (a ++ t) = a ++ dropUnmatchedFrom depth t := by
  induction a with
  | nil => rfl
  | cons c a ih =>
    rw [mem_cons, not_or] at hopen hclose
    rw [cons_append, dropUnmatchedFrom_cons (Ne.symm hopen.1) (Ne.symm hclose.1), ih hopen.2 hclose.2, cons_append]

theorem dropUnmatchedFrom_append_right (hopen : '{' ∉ b) (hclose : '}' ∉ b) (depth : Nat) (t : Text) :
    dropUnmatchedFrom depth (t ++ b) = dropUnmatchedFrom depth t ++ b := by
  fun_induction dropUnmatchedFrom depth t with
  | case1 depth =>
    have hb := dropUnmatchedFrom_append_left hopen hclose depth []
    simpa [dropUnmatchedFrom] using hb
  | case2 depth c rest hc ih =>
    obtain rfl := beq_iff_eq.mp hc
    rw [cons_append, dropUnmatchedFrom_open, ih, cons_append]
  | case3 c rest hc hc' ih =>
    obtain rfl := beq_iff_eq.mp hc'
    rw [cons_append, dropUnmatchedFrom_unmatched, ih]
  | case4 c rest hc hc' depth ih =>
    obtain rfl := beq_iff_eq.mp hc'
    rw [cons_append, dropUnmatchedFrom_close, ih, cons_append]
  | case5 depth c rest hc hc' ih =>
    rw [cons_append, dropUnmatchedFrom_cons (by simpa using hc) (by simpa using hc'), ih, cons_append]

theorem dropUnmatchedFrom_idem (depth : Nat) (t : Text) :
    dropUnmatchedFrom depth (dropUnmatchedFrom depth t) = dropUnmatchedFrom depth t := by
  fun_induction dropUnmatchedFrom depth t with
  | case1 depth => rfl
  | case2 depth c rest hc ih =>
    obtain rfl := beq_iff_eq.mp hc
    rw [dropUnmatchedFrom_open, ih]
  | case3 c rest hc hc' ih => exact ih
  | case4 c rest hc hc' depth ih =>
    obtain rfl := beq_iff_eq.mp hc'
    rw [dropUnmatchedFrom_close, ih]
  | case5 depth c rest hc hc' ih => rw [dropUnmatchedFrom_cons (by simpa using hc) (by simpa using hc'), ih]

theorem dropUnmatchedFrom_sublist (depth : Nat) (t : Text) : (dropUnmatchedFrom depth t).Sublist t := by
  fun_induction dropUnmatchedFrom depth t with
  | case1 depth => exact .slnil
  | case2 depth c rest hc ih => exact ih.cons_cons c
  | case3 c rest hc hc' ih => exact ih.cons c
  | case4 c rest hc hc' depth ih => exact ih.cons_cons c
  | case5 depth c rest hc hc' ih => exact ih.cons_cons c

theorem dropUnmatchedFrom_eq_or_lt (depth : Nat) (t : Text) : dropUnmatchedFrom depth t = t ∨
    (dropUnmatchedFrom depth t).countP droppable < t.countP droppable := by
  fun_induction dropUnmatchedFrom depth t with
  | case1 depth => exact .inl rfl
  | case2 depth c rest hc ih =>
    refine ih.imp (fun h => by rw [h]) fun h => ?_
    rw [countP_cons, countP_cons]
    omega
  | case3 c rest hc hc' ih =>
    have hle := (dropUnmatchedFrom_sublist 0 rest).countP_le (p := droppable)
    have hdrop : droppable c := by
      rw [beq_iff_eq.mp hc']
      decide
    rw [countP_cons, if_pos hdrop]
    exact .inr (by omega)
  | case4 c rest hc hc' depth ih =>
    refine ih.imp (fun h => by rw [h]) fun h => ?_
    rw [countP_cons, countP_cons]
    omega
  | case5 depth c rest hc hc' ih =>
    refine ih.imp (fun h => by rw [h]) fun h => ?_
    rw [countP_cons, countP_cons]
    omega

theorem dropUnmatched_of_not_mem (hopen : '{' ∉ t) (hclose : '}' ∉ t) : dropUnmatched t = t := by
  have hkept := dropUnmatchedFrom_append_left hopen hclose 0 []
  rwa [append_nil, dropUnmatchedFrom, append_nil] at hkept

theorem dropUnmatched_assigned (hy : Free y) : dropUnmatched (assigned y s) = assigned y (dropUnmatched s) := by
  have hopen := hy '{' (by decide)
  have hclose := hy '}' (by decide)
  have hparts : ∀ s : Text, assigned y s = (y ++ [' ', '=', ' ', '"']) ++ (s ++ ['"', ';']) := by
    simp [assigned]
  rw [hparts, dropUnmatched, dropUnmatchedFrom_append_left (by simp [hopen]) (by simp [hclose]),
    dropUnmatchedFrom_append_right (by decide) (by decide), hparts, dropUnmatched]

/-! ### Lines and headers -/

theorem trimEnd_concat (h : isBlank d = false) (x : Text) : trimEnd (x ++ [d]) = x ++ [d] := by
  simp [trimEnd, h]

theorem dropWhile_append_cons {p : Char → Bool} (h : p d = false) :
    (a ++ d :: b).dropWhile p = a.dropWhile p ++ d :: b := by
  induction a with
  | nil => simp [h]
  | cons c a ih =>
    cases hc : p c <;> simp [hc, ih]

theorem trim_assigned (y s : Text) : ∃ z, (∀ c ∈ z, c ∈ y ++ [' ']) ∧
    trim (assigned y s) = z ++ '=' :: ' ' :: '"' :: (s ++ ['"', ';']) := by
  refine ⟨(y ++ [' ']).dropWhile isBlank, fun c hc => (dropWhile_sublist _).subset hc, ?_⟩
  have hparts : assigned y s = (y ++ [' ']) ++ '=' :: ' ' :: '"' :: (s ++ ['"', ';']) := by
    simp [assigned]
  rw [trim, trimStart, hparts, dropWhile_append_cons rfl]
  have hend := trimEnd_concat (by decide : isBlank ';' = false)
    ((y ++ [' ']).dropWhile isBlank ++ '=' :: ' ' :: '"' :: (s ++ ['"']))
  simpa using hend

theorem trimEnd_assigned (y s : Text) : trimEnd (assigned y s) = assigned y s := by
  have hend := trimEnd_concat (by decide : isBlank ';' = false) (y ++ ' ' :: '=' :: ' ' :: '"' :: (s ++ ['"']))
  simpa [assigned] using hend

theorem joinStatements_assigned (hy : Free y) (hs : Quotable s) :
    joinStatements (assigned y s) = .ok (assigned y s) := by
  have hline := not_mem_assigned hy hs
  have hne : assigned y s ≠ [] := by simp [assigned]
  have hend := trimEnd_assigned y s
  have hlast : (assigned y s).getLast? = some ';' := by
    have hparts : assigned y s = (y ++ ' ' :: '=' :: ' ' :: '"' :: (s ++ ['"'])) ++ [';'] := by
      simp [assigned]
    rw [hparts, getLast?_concat]
  have hdot : startsWithDot (assigned y s) = false := by
    obtain ⟨z, hz, htrim⟩ := trim_assigned y s
    rw [startsWithDot, htrim]
    cases z with
    | nil => rfl
    | cons c z =>
      have hc : c ≠ '.' := by
        rintro rfl
        have := hz _ mem_cons_self
        simp [hy '.' (by decide)] at this
      simp [hc]
  simp only [joinStatements, joinDotLines_of_one hline hne hend hdot, joinPlusLines, joinEqualLines, bind,
    Except.bind, joinOpenLines_of_one hline hend (by simp [hlast] : (assigned y s).getLast? ≠ some '+')]
  exact joinOpenLines_of_one hline hend (by simp [hlast])

/-- An assignment does not begin with the header of a loop: the equals sign comes before any parenthesis. -/
theorem not_opensHeader_assigned (hy : Free y) : opensHeader (assigned y s) = false := by
  obtain ⟨z, hz, htrim⟩ := trim_assigned y s
  have hfound : forStart.found (trim (assigned y s)) = false := by
    rw [← Bool.not_eq_true]
    intro h
    obtain ⟨u, depth, m, hu, hm⟩ := exists_of_found h
    obtain ⟨-, m₁, ⟨rfl, hstart⟩, m₂, ⟨hfor, -⟩, m₃, ⟨b, -, hb, hblanks, -⟩, hparen, -⟩ := reads_of_matchAt hm
    have hnil : u = [] := by
      have hbefore := hu.before
      rw [hstart] at hbefore
      simpa [Cursor.start] using hbefore.symm
    have hheader : "for".toList ++ b ++ ['('] <+: z ++ '=' :: ' ' :: '"' :: (s ++ ['"', ';']) := by
      refine ⟨m.stop.after, ?_⟩
      have hafter : trim (assigned y s) = u ++ m.start.after := hu.after
      have hblanks : m₂.1.after = b ++ m₃.1.after := hblanks.after
      rw [← htrim, hafter, hnil, hfor.after, hblanks, hparen.after]
      simp
    have hequals : '=' ∉ "for" ++ b ++ ['('] := by
      have hspace : '=' ∉ b := fun h => absurd (hb _ h) (by decide)
      simp [hspace]
    have hmem : '(' ∈ y ++ [' '] :=
      hz _ ((prefix_of_prefix_append_cons hequals hheader).subset (by simp))
    simp [hy '(' (by decide)] at hmem
  simp only [opensHeader, hfound, Bool.false_and]

end Geoscript.Script
