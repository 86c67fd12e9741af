import Geoscript.Proofs.Script.LoopHeader
import Geoscript.Proofs.Script.Name

/-! What a loop header becomes that defines a variable, compares it with a number and steps it by one. -/

namespace Geoscript.Script
open List Pattern
open Text hiding count
variable {v w t : Text} {a b i : Int} {c : Char}

/-! ### Names and numbers -/

def decimal (i : Int) : Text :=
  (toString i).toList

theorem decimal_eq (i : Int) : ∃ n, decimal i = Nat.toDigits 10 n ∨ decimal i = '-' :: Nat.toDigits 10 n := by
  cases i with
  | ofNat n => exact ⟨n, .inl Nat.toList_repr⟩
  | negSucc n =>
    refine ⟨n + 1, .inr ?_⟩
    show ("-" ++ (n + 1).repr).toList = _
    rw [String.toList_append, Nat.toList_repr]
    rfl

theorem mem_decimal (h : c ∈ decimal i) : c.isDigit ∨ c = '-' := by
  obtain ⟨n, hn | hn⟩ := decimal_eq i
  · rw [hn] at h
    exact .inl (Nat.isDigit_of_mem_toDigits (by decide) (by decide) h)
  · rw [hn] at h
    rcases mem_cons.mp h with rfl | h
    · exact .inr rfl
    · exact .inl (Nat.isDigit_of_mem_toDigits (by decide) (by decide) h)

theorem not_mem_decimal (hdigit : c.isDigit = false) (hsign : c ≠ '-') : c ∉ decimal i := fun h => by
  rcases mem_decimal h with h | h
  · rw [hdigit] at h
    cases h
  · exact hsign h

theorem count_decimal (c : Char) (hdigit : c.isDigit = false) (hsign : c ≠ '-') : count c (decimal i) = 0 :=
  count_eq_zero.mpr (not_mem_decimal hdigit hsign)

theorem IsVariable.count_eq_zero (hv : IsVariable v) (c : Char) (hc : isNameChar c = false) : count c v = 0 :=
  List.count_eq_zero.mpr (hv.not_mem c hc)

theorem count_minus_decimal (i : Int) : count '-' (decimal i) ≤ 1 := by
  have hdigits (n : Nat) : count '-' (Nat.toDigits 10 n) = 0 := by
    rw [count_eq_zero]
    intro h
    exact absurd (Nat.isDigit_of_mem_toDigits (by decide) (by decide) h) (by decide)
  obtain ⟨n, hn | hn⟩ := decimal_eq i
  · simp [hn, hdigits n]
  · simp [hn, hdigits n]

theorem char_of_code {p : Char → Bool} {x : Bool} {codes : List Nat} (h : ∀ n ∈ codes, p (Char.ofNat n) = x)
    (hc : c.toNat ∈ codes) : p c = x := by
  have hchar := h c.toNat hc
  rwa [Char.ofNat_toNat] at hchar

theorem isNameChar_of_isDigit (h : c.isDigit) : isNameChar c := by
  have hcodes : ∀ n ∈ range' 48 10, isNameChar (Char.ofNat n) := by decide
  simp only [Char.isDigit, Bool.and_eq_true, decide_eq_true_eq, ge_iff_le, UInt32.le_iff_toNat_le] at h
  have hlow : 48 ≤ c.toNat := h.1
  have hhigh : c.toNat ≤ 57 := h.2
  exact char_of_code hcodes (mem_range'_1.mpr ⟨hlow, Nat.lt_succ_iff.mpr hhigh⟩)

theorem not_isSpace_decimal : ∀ c ∈ decimal i, isSpace c = false := by
  intro c hc
  rcases mem_decimal hc with h | rfl
  · exact not_isSpace_of_isNameChar (isNameChar_of_isDigit h)
  · rfl

theorem without_isSpace (h : ∀ c ∈ t, isSpace c = false) : without isSpace t = t :=
  filter_eq_self.mpr fun c hc => by
    rw [h c hc]
    rfl

theorem without_append (drop : Char → Bool) (s t : Text) : without drop (s ++ t) = without drop s ++ without drop t :=
  filter_append ..

/-! ### What does not occur -/

theorem has_false_of_not_mem {o : Text} (hc : c ∈ o) (h : c ∉ t) : has o t = false := by
  rw [← Bool.not_eq_true, has_iff]
  exact fun hpart => h (hpart.subset hc)

theorem has_false_of_count {o : Text} (c : Char) (h : count c t < count c o) : has o t = false := by
  rw [← Bool.not_eq_true, has_iff]
  intro hpart
  have := hpart.sublist.count_le c
  omega

theorem infix_between_iff {o x y : Text} (ho : o ≠ []) (hx : ∀ c ∈ o, c ∉ x) (hy : ∀ c ∈ o, c ∉ y) :
    o <:+: x ++ t ++ y ↔ o <:+: t := by
  have hleft : ∀ {o x t : Text}, o ≠ [] → (∀ c ∈ o, c ∉ x) → o <:+: x ++ t → o <:+: t := by
    intro o x t ho hx h
    induction x with
    | nil => exact h
    | cons d x ih =>
      rcases infix_cons_iff.mp h with ⟨rest, hrest⟩ | h
      · obtain ⟨c, o, rfl⟩ := exists_cons_of_ne_nil ho
        obtain ⟨rfl, -⟩ := cons.inj hrest
        exact absurd mem_cons_self (hx c mem_cons_self)
      · exact ih (fun c hc hmem => hx c hc (mem_cons_of_mem d hmem)) h
  constructor
  · intro h
    rw [append_assoc] at h
    have hright := reverse_infix.mpr (hleft ho hx h)
    rw [reverse_append] at hright
    refine reverse_infix.mp (hleft (by simpa using ho) (fun c hc hmem => ?_) hright)
    exact hy c (mem_reverse.mp hc) (mem_reverse.mp hmem)
  · rintro ⟨p, s, rfl⟩
    exact ⟨x ++ p, s ++ y, by simp⟩

theorem splitOn_of_not_mem {d : Char} {s x y : Text} (hx : d ∉ x) (hy : d ∉ y) :
    splitOn (d :: s) (x ++ (d :: s ++ y)) = [x, y] := by
  have hprefix {c : Char} {rest : Text} (hc : d ≠ c) : (d :: s).isPrefixOf (c :: rest) = false := by
    simp [isPrefixOf, hc]
  have hlast : ∀ z : Text, d ∉ z → splitGo (d :: s) 0 z = [z] := by
    intro z hz
    induction z with
    | nil => rfl
    | cons c z ih =>
      rw [mem_cons, not_or] at hz
      rw [splitGo, hprefix hz.1, ih hz.2]
      rfl
  have hskip : ∀ (z : Text) (rest : Text), splitGo (d :: s) z.length (z ++ rest) = splitGo (d :: s) 0 rest := by
    intro z rest
    induction z with
    | nil => rfl
    | cons c z ih => exact ih
  induction x with
  | nil =>
    have hmatch : (d :: s).isPrefixOf (d :: (s ++ y)) := isPrefixOf_iff_prefix.mpr ⟨y, rfl⟩
    show splitGo (d :: s) 0 (d :: (s ++ y)) = _
    rw [splitGo, hmatch, if_pos rfl]
    show [] :: splitGo (d :: s) s.length (s ++ y) = _
    rw [hskip, hlast y hy]
  | cons c x ih =>
    rw [mem_cons, not_or] at hx
    show splitGo (d :: s) 0 (c :: (x ++ (d :: s ++ y))) = _
    rw [splitGo, hprefix hx.1]
    have hrest : splitGo (d :: s) 0 (x ++ (d :: s ++ y)) = [x, y] := ih hx.2
    simp only [hrest, Bool.false_eq_true, if_false]

/-! ### The parts of a header -/

inductive Stride where
  | up
  | down

namespace Stride

def sign : Stride → Char
  | up => '+'
  | down => '-'

def amount : Stride → Int
  | up => 1
  | down => -1

end Stride

variable {op : Comparison} {stride : Stride}

def definitionPart (v : Text) (a : Int) : Text :=
  ['v', 'a', 'r', ' '] ++ v ++ [' ', '=', ' '] ++ decimal a

def conditionPart (v : Text) (op : Comparison) (b : Int) : Text :=
  ' ' :: v ++ ' ' :: op.symbol ++ ' ' :: decimal b

def stepPart (v : Text) (stride : Stride) : Text :=
  ' ' :: v ++ [stride.sign, stride.sign]

def countedInside (v : Text) (a : Int) (op : Comparison) (b : Int) (stride : Stride) : Text :=
  definitionPart v a ++ ';' :: (conditionPart v op b ++ ';' :: stepPart v stride)

/-! ### What the parts are made of -/

def MadeOf (o t : Text) : Prop :=
  ∀ c ∈ t, isNameChar c ∨ c ∈ o

instance (o t : Text) : Decidable (MadeOf o t) :=
  decidableBAll (fun c => isNameChar c ∨ c ∈ o) t

theorem MadeOf.not_mem {o : Text} (h : MadeOf o t) (c : Char) (hc : (isNameChar c || o.contains c) = false) :
    c ∉ t := by
  intro hmem
  rw [Bool.or_eq_false_iff, contains_eq_mem, decide_eq_false_iff_not] at hc
  rcases h c hmem with h | h
  · rw [hc.1] at h
    cases h
  · exact hc.2 h

theorem MadeOf.append {o s : Text} (hs : MadeOf o s) (ht : MadeOf o t) : MadeOf o (s ++ t) := fun c hc =>
  (mem_append.mp hc).elim (hs c) (ht c)

theorem MadeOf.mono {o o' : Text} (h : MadeOf o t) (ho : o.all o'.contains) : MadeOf o' t := fun c hc =>
  (h c hc).imp_right fun hmem => contains_iff_mem.mp (all_eq_true.mp ho c hmem)

theorem IsVariable.madeOf (hv : IsVariable v) (o : Text) : MadeOf o v := fun c hc =>
  .inl (hv.chars c hc)

theorem madeOf_decimal {o : Text} (h : '-' ∈ o) : MadeOf o (decimal i) := by
  intro c hc
  rcases mem_decimal hc with hdigit | rfl
  · exact .inl (isNameChar_of_isDigit hdigit)
  · exact .inr h

theorem MadeOf.cons {o : Text} (hc : c ∈ o) (ht : MadeOf o t) : MadeOf o (c :: t) := fun d hd => by
  rcases mem_cons.mp hd with rfl | hd
  · exact .inr hc
  · exact ht d hd

/-! ### Declared names -/

/-- The names that are declared as such: all their signs are known, or those at the start have one that can end a
declaration behind the first. -/
def declarable (v : Text) : Bool :=
  let known := v.takeWhile nameSet.has
  known = v || (known.drop 1).any fun c => c == 'i' || c == 'n'

/-- The name that a variable is defined by: the word stays with one that is not declared as such. -/
def declaredAs (v : Text) : Text :=
  if declarable v then v else "var" ++ v

theorem declarable_of_known (h : ∀ c ∈ v, nameSet.has c) : declarable v := by
  simp [declarable, takeWhile_eq_self_iff.mpr h]

theorem declarable_of_split {p q : Text} (hp : p ≠ []) (hknown : ∀ c ∈ p, nameSet.has c)
    (hq : ∀ c ∈ q.head?, c = 'i' ∨ c = 'n') : declarable (p ++ q) := by
  cases q with
  | nil =>
    rw [append_nil]
    exact declarable_of_known hknown
  | cons c q =>
    obtain ⟨d, p, rfl⟩ := exists_cons_of_ne_nil hp
    have hc := hq c rfl
    have hset : nameSet.has c := by rcases hc with rfl | rfl <;> rfl
    rw [declarable, takeWhile_append_of_pos hknown, takeWhile_cons_of_pos hset]
    rcases hc with rfl | rfl <;> simp

variable (hv : IsVariable v)
include hv

theorem madeOf_definitionPart : MadeOf " =-" (definitionPart v a) :=
  (((by decide : MadeOf " =-" ['v', 'a', 'r', ' ']).append (hv.madeOf _)).append
    (by decide : MadeOf " =-" [' ', '=', ' '])).append (madeOf_decimal (by decide))

theorem madeOf_conditionPart : MadeOf (' ' :: '-' :: op.symbol) (conditionPart v op b) := by
  have hsymbol : MadeOf (' ' :: '-' :: op.symbol) op.symbol := fun c hc => by simp [hc]
  exact (((hv.madeOf _).cons (by simp)).append (hsymbol.cons (by simp))).append
    ((madeOf_decimal (by simp)).cons (by simp))

theorem madeOf_stepPart : MadeOf [' ', stride.sign] (stepPart v stride) := by
  have hsigns : MadeOf [' ', stride.sign] [stride.sign, stride.sign] := fun c hc => by
    obtain rfl : c = stride.sign := by simpa using hc
    simp
  exact ((hv.madeOf _).cons (by simp)).append hsigns

omit hv in
theorem not_isStep (hplus : '+' ∉ t) (hminus : count '-' t ≤ 1) : isStep t = false := by
  have hdown : has "--" t = false := has_false_of_count '-' (Nat.lt_succ_of_le hminus)
  rw [isStep, has_false_of_not_mem (by decide) hplus, hdown]
  rfl

omit hv in
theorem not_isCondition (hless : '<' ∉ t) (hgreater : '>' ∉ t) (hnot : '!' ∉ t) (hequals : count '=' t ≤ 1) :
    isCondition t = false := by
  have hequal : has "==" t = false := has_false_of_count '=' (Nat.lt_succ_of_le hequals)
  rw [isCondition, any_eq_false]
  intro op _
  rw [Bool.not_eq_true]
  cases op with
  | le | lt => exact has_false_of_not_mem (by decide) hless
  | gt | ge => exact has_false_of_not_mem (by decide) hgreater
  | eq => exact hequal
  | ne => exact has_false_of_not_mem (by decide) hnot

theorem isStep_definitionPart : isStep (definitionPart v a) = false := by
  refine not_isStep ((madeOf_definitionPart hv).not_mem '+' rfl) ?_
  simpa [definitionPart, hv.count_eq_zero '-' rfl] using count_minus_decimal a

theorem isStep_conditionPart : isStep (conditionPart v op b) = false := by
  have hsymbol : count '-' op.symbol = 0 := by cases op <;> decide
  refine not_isStep ((madeOf_conditionPart hv).not_mem '+' (by cases op <;> decide)) ?_
  simpa [conditionPart, hv.count_eq_zero '-' rfl, hsymbol] using count_minus_decimal b

omit hv in
theorem isStep_stepPart : isStep (stepPart v stride) := by
  have hsigns : has [stride.sign, stride.sign] (stepPart v stride) :=
    has_iff.mpr ⟨' ' :: v, [], by simp [stepPart]⟩
  rw [isStep, Bool.or_eq_true]
  cases stride with
  | up => exact .inl hsigns
  | down => exact .inr hsigns

theorem isCondition_definitionPart : isCondition (definitionPart v a) = false := by
  have hmade := @madeOf_definitionPart v a hv
  refine not_isCondition (hmade.not_mem '<' rfl) (hmade.not_mem '>' rfl)
    (hmade.not_mem '!' rfl) ?_
  simp [definitionPart, hv.count_eq_zero '=' rfl, count_decimal '=' rfl (by decide)]

omit hv in
theorem isCondition_conditionPart : isCondition (conditionPart v op b) := by
  have hsymbol : has op.symbol (conditionPart v op b) :=
    has_iff.mpr ⟨' ' :: v ++ [' '], ' ' :: decimal b, by simp [conditionPart]⟩
  exact any_eq_true.mpr ⟨op, by cases op <;> decide, hsymbol⟩

theorem isCondition_stepPart : isCondition (stepPart v stride) = false := by
  have hmade := @madeOf_stepPart v stride hv
  have hequals : '=' ∉ stepPart v stride := hmade.not_mem '=' (by cases stride <;> decide)
  refine not_isCondition (hmade.not_mem '<' (by cases stride <;> decide))
    (hmade.not_mem '>' (by cases stride <;> decide)) (hmade.not_mem '!' (by cases stride <;> decide)) ?_
  rw [count_eq_zero.mpr hequals]
  omega

theorem amount_stepPart : (if has "++".toList (without isSpace (stepPart v stride)) then "1".toList else "-1".toList) =
      decimal stride.amount := by
  have hpart : without isSpace (stepPart v stride) = v ++ [stride.sign, stride.sign] := by
    have hname : without isSpace (' ' :: v) = v := without_isSpace hv.not_isSpace
    rw [stepPart, without_append, hname]
    cases stride <;> rfl
  rw [hpart]
  cases stride with
  | up =>
    have hplus : has "++".toList (v ++ [Stride.up.sign, Stride.up.sign]) :=
      has_iff.mpr ⟨v, [], append_nil _⟩
    rw [hplus]
    rfl
  | down =>
    have hplus : '+' ∉ v ++ [Stride.down.sign, Stride.down.sign] := by
      simp [hv.not_mem '+' rfl, Stride.sign]
    rw [has_false_of_not_mem (by decide) hplus]
    rfl

/-! ### The definition -/

omit hv in
theorem ne_of_blank_at_end {x r u : Text} (hu : ' ' ∉ u) (hr : r ≠ []) : x ++ ' ' :: r ≠ u ++ [' '] := by
  intro h
  rcases cut_eq_or_behind hu h with ⟨-, hnil⟩ | ⟨mid, -, hmid⟩
  · exact hr hnil
  · simp at hmid

theorem eq_space_of_isSpace (hc : c ∈ definitionPart v a) (hspace : isSpace c) : c = ' ' := by
  rcases madeOf_definitionPart hv c hc with hname | hsign
  · rw [not_isSpace_of_isNameChar hname] at hspace
    cases hspace
  · obtain rfl | rfl | rfl : c = ' ' ∨ c = '=' ∨ c = '-' := by simpa using hsign
    · rfl
    · cases hspace
    · cases hspace

/-- Of the signs of a variable a declaration reads known ones, up to the end or to one that can end it. -/
theorem declared_definitionPart {m : Match} (h : m ∈ declaration.occurrences (definitionPart v a)) :
    ∃ p q : Text, p ≠ [] ∧ v = p ++ q ∧ m.group 1 = ' ' :: p ∧ (∀ c ∈ p, nameSet.has c) ∧
      ∀ c ∈ q.head?, c = 'i' ∨ c = 'n' := by
  obtain ⟨u, blanks, name, behind, rest, d, hd, hgroup, hblanks, hname, hspace, hchars, hbehind, htext⟩ :=
    declaration_read h
  obtain ⟨blank, blanks, rfl⟩ := exists_cons_of_ne_nil hblanks
  obtain rfl := eq_space_of_isSpace hv (by rw [htext]; simp) (hspace blank mem_cons_self)
  have hstart {c : Char} {x : Text} (hc : isSpace c = false) (hx : blanks ++ (name ++ (behind ++ d :: rest)) = c :: x) :
      blanks = [] ∧ nameSet.has c := by
    cases blanks with
    | nil =>
      obtain ⟨c', name, rfl⟩ := exists_cons_of_ne_nil hname
      obtain ⟨rfl, -⟩ := cons.inj hx
      exact ⟨rfl, hchars c' mem_cons_self⟩
    | cons b blanks =>
      obtain ⟨rfl, -⟩ := cons.inj hx
      have hblank := hspace b (by simp)
      rw [hc] at hblank
      cases hblank
  have hfirst : (u ++ "var") ++ ' ' :: (blanks ++ (name ++ (behind ++ d :: rest))) =
      "var" ++ ' ' :: (v ++ ' ' :: '=' :: ' ' :: decimal a) := by
    rw [definitionPart] at htext
    simpa using htext.symm
  have hblank : ' ' ∉ v := hv.not_mem ' ' rfl
  rcases cut_eq_or_behind (by decide) hfirst with ⟨-, hrest⟩ | ⟨mid, hmid, hrest⟩
  · obtain ⟨c, v', rfl⟩ := exists_cons_of_ne_nil hv.ne_nil
    obtain ⟨rfl, -⟩ := hstart (hv.not_isSpace c mem_cons_self) hrest
    rw [nil_append] at hrest
    have hother : ' ' ∉ name := fun hmem => absurd (hchars ' ' hmem) (by decide)
    obtain ⟨q, hq⟩ := prefix_of_prefix_append_cons hother ⟨_, hrest⟩
    refine ⟨name, q, hname, hq.symm, hgroup, hchars, fun c hc => ?_⟩
    obtain ⟨q, rfl⟩ := head?_eq_some_iff.mp hc
    rw [← hq, append_assoc, append_cancel_left_eq] at hrest
    have hsolid := hv.chars c (hq ▸ by simp)
    cases behind with
    | nil =>
      obtain ⟨rfl, -⟩ := cons.inj hrest
      have hends : d = '=' ∨ d = '|' ∨ d = 'i' ∨ d = 'n' := by simpa using hd
      rcases hends with rfl | rfl | hends
      · cases hsolid
      · cases hsolid
      · exact hends
    | cons b behind =>
      obtain ⟨rfl, -⟩ := cons.inj hrest
      have hb := hbehind b mem_cons_self
      rw [not_isSpace_of_isNameChar hsolid] at hb
      cases hb
  · -- The blanks behind the name are followed by an equals sign, and by a number after one.
    rcases cut_eq_or_behind hblank hrest.symm with ⟨-, hequals⟩ | ⟨number, rfl, hnumber⟩
    · exact absurd (hstart (by decide) hequals).2 (by decide)
    · obtain ⟨x, y, rfl⟩ : ∃ x y, number = x ++ [y] := by
        rcases eq_nil_or_concat' number with rfl | hconcat
        · exact absurd (cons.inj hnumber).1 (by decide)
        · exact hconcat
      have hend : ("var" ++ ' ' :: (v ++ ' ' :: x)) ++ [y] = (u ++ "va") ++ ['r'] := by simpa using hmid.symm
      have hmem : 'r' ∈ '=' :: ' ' :: decimal a := by simp [hnumber, (cons.inj (append_inj' hend rfl).2).1]
      simp [not_mem_decimal] at hmem

omit hv in
theorem not_declared {p q : Text} (hp : p ≠ []) (hequals : '=' ∉ p) (hq : ' ' ∉ q) :
    ¬"var".toList ++ ' ' :: p <:+: q ++ " = ".toList ++ decimal a := by
  have hcut : q ++ " = ".toList ++ decimal a = (q ++ [' ']) ++ '=' :: (' ' :: decimal a) := by simp
  rw [hcut, infix_append_cons_iff (by simp [hequals])]
  rintro (⟨x, y, hxy⟩ | hnumber)
  · refine ne_of_blank_at_end (x := x ++ "var") (r := p ++ y) hq (by simp [hp]) ?_
    rw [← hxy]
    simp
  · have hmem : 'v' ∈ ' ' :: decimal a := hnumber.subset (by simp)
    simp [not_mem_decimal] at hmem

theorem exists_split (h : declarable v) : ∃ p q, p ≠ [] ∧ v = p ++ q ∧ (∀ c ∈ p, nameSet.has c) ∧
    ∀ c ∈ q.head?, c = 'i' ∨ c = 'n' := by
  have hknown : ∀ c ∈ v.takeWhile nameSet.has, nameSet.has c := fun c => mem_takeWhile_imp
  rw [declarable, Bool.or_eq_true, decide_eq_true_eq, any_eq_true] at h
  rcases h with h | ⟨c, hc, hends⟩
  · exact ⟨v, [], hv.ne_nil, (append_nil v).symm, h ▸ hknown, by simp⟩
  · obtain ⟨x, y, hxy⟩ := append_of_mem hc
    obtain ⟨d, hd⟩ : ∃ d, v.takeWhile nameSet.has = d :: (x ++ c :: y) := by
      cases hfirst : v.takeWhile nameSet.has with
      | nil => simp [hfirst] at hxy
      | cons d z => exact ⟨d, by rw [hfirst, drop_one, tail_cons] at hxy; rw [hxy]⟩
    rw [hd] at hknown
    refine ⟨d :: x, c :: (y ++ v.dropWhile nameSet.has), cons_ne_nil _ _, ?_, fun e he => hknown e ?_, ?_⟩
    · conv => lhs; rw [← takeWhile_append_dropWhile (p := nameSet.has) (l := v), hd]
      simp
    · rw [← cons_append]
      exact mem_append_left _ he
    · simpa using hends

theorem found_declaration_iff : declaration.found (definitionPart v a) ↔ declarable v := by
  constructor
  · intro h
    obtain ⟨m, hm⟩ := exists_mem_of_ne_nil _ (occurrences_ne_nil h)
    obtain ⟨p, q, hp, rfl, -, hknown, hq⟩ := declared_definitionPart hv hm
    exact declarable_of_split hp hknown hq
  · intro h
    obtain ⟨p, q, hp, rfl, hknown, hq⟩ := exists_split hv h
    have hafter : (Cursor.start (definitionPart (p ++ q) a)).after =
        "var" ++ ' ' :: (p ++ (q ++ ' ' :: '=' :: ' ' :: decimal a)) := by
      simp [Cursor.start, definitionPart]
    refine found_of_matchAt (Cursor.Over.refl _) fun depth => matchAt_isSome ?_
    simp only [declaration, Pattern.all, matcher_seq, matcher_group]
    refine lit_isSome hafter ?_
    refine run_isSome (u := [' ']) (Nat.le_refl _) (forall_mem_singleton.mpr rfl) rfl ?_
    refine run_isSome (u := p) (length_pos_iff.mpr hp) hknown rfl ?_
    cases q with
    | nil =>
      refine run_isSome (u := [' ']) (Nat.zero_le _) (forall_mem_singleton.mpr rfl) rfl ?_
      rw [matcher_one _ _ rfl]
      rfl
    | cons c q =>
      refine run_isSome_nil ?_
      rw [matcher_one _ _ rfl]
      rcases hq c rfl with rfl | rfl <;> rfl

/-- The definition without its word: the first name that is declared takes the word away, and nothing is left for
the others. -/
theorem dropVar_definitionPart (hdeclarable : declarable v) :
    dropVar (definitionPart v a) = .ok (v ++ " = ".toList ++ decimal a) := by
  have hblank : ' ' ∉ v := hv.not_mem ' ' rfl
  have hequals : '=' ∉ v := hv.not_mem '=' rfl
  have hdone : ∀ name ∈ (declaration.occurrences (definitionPart v a)).map (·.group 1),
      (if has " in ".toList name then v ++ " = ".toList ++ decimal a
        else replace ("var".toList ++ name) (without (· == ' ') name) (v ++ " = ".toList ++ decimal a)) =
      v ++ " = ".toList ++ decimal a := by
    intro name hname
    obtain ⟨m, hm, rfl⟩ := mem_map.mp hname
    obtain ⟨p, q, hp, rfl, hgroup, -⟩ := declared_definitionPart hv hm
    rw [hgroup, replace_of_not_occurs (by simp) (not_declared hp (fun h => hequals (mem_append_left q h)) hblank),
      ite_self]
  rw [dropVar_eq]
  cases hms : declaration.occurrences (definitionPart v a) with
  | nil => exact absurd hms (occurrences_ne_nil ((found_declaration_iff hv).mpr hdeclarable))
  | cons m ms =>
    obtain ⟨p, q, hp, rfl, hgroup, -⟩ := declared_definitionPart hv (hms ▸ mem_cons_self)
    rw [mem_append, not_or] at hblank hequals
    have hin : has " in ".toList (' ' :: p) = false :=
      has_false_of_count ' ' (by simp [count_eq_zero.mpr hblank.1])
    have hname : without (· == ' ') (' ' :: p) = p := by
      rw [without, filter_cons_of_neg (by decide), filter_eq_self]
      intro c hc
      simp only [Bool.not_eq_true', beq_eq_false_iff_ne]
      rintro rfl
      exact hblank.1 hc
    have hfirst : replace ("var".toList ++ ' ' :: p) p (definitionPart (p ++ q) a) =
        p ++ q ++ " = ".toList ++ decimal a := by
      have hcut : definitionPart (p ++ q) a = ("var".toList ++ ' ' :: p) ++ (q ++ " = ".toList ++ decimal a) := by
        simp [definitionPart]
      rw [hcut, replace_append (by simp), replace_of_not_occurs (by simp) (not_declared hp hequals.1 hblank.2)]
      simp
    rw [hms, map_cons, forall_mem_cons] at hdone
    rw [map_cons, foldl_cons, hgroup, hin, if_neg Bool.false_ne_true, hname, hfirst, foldl_eq_self hdone.2]

theorem IsVariable.declaredAs : IsVariable (declaredAs v) := by
  unfold Script.declaredAs
  split
  · exact hv
  · refine isVariable_of_all (by simp) ?_
    rw [all_append, all_eq_true.mpr hv.chars]
    rfl

theorem bareDefinition_definitionPart : bareDefinition (definitionPart v a) = declaredAs v ++ '=' :: decimal a := by
  have hname := without_isSpace hv.not_isSpace
  have hnumber := without_isSpace (@not_isSpace_decimal a)
  unfold declaredAs
  split
  · next hdeclarable =>
    rw [bareDefinition_of_dropVar (dropVar_definitionPart hv hdeclarable), without_append, without_append, hname,
      hnumber, append_assoc]
    rfl
  · next hnot =>
    have hnone := occurrences_of_not_found (Bool.not_eq_true _ ▸ mt (found_declaration_iff (a := a) hv).mp hnot)
    rw [bareDefinition, hnone, map_nil]
    show without isSpace (definitionPart v a) = _
    rw [definitionPart, without_append, without_append, without_append, hname, hnumber]
    simp [without, isSpace]

/-! ### The condition -/

def condition (v : Text) (op : Comparison) (b : Int) : Text :=
  v ++ op.symbol ++ decimal b

theorem without_conditionPart : without isSpace (conditionPart v op b) = condition v op b := by
  have hsymbol : ∀ c ∈ op.symbol, isSpace c = false := by
    simpa using all_eq_true.mp (by cases op <;> decide : op.symbol.all (fun c => !isSpace c))
  have hblank (t : Text) : without isSpace (' ' :: t) = without isSpace t := rfl
  rw [conditionPart, without_append, without_append, hblank, hblank, hblank, without_isSpace hv.not_isSpace,
    without_isSpace hsymbol, without_isSpace not_isSpace_decimal]
  rfl

/-- The comparison that a condition is read with, and what is read behind it: `>=` is read as `>`, and its equals
sign stays with the number. -/
def Comparison.reading : Comparison → Int → Comparison × Text
  | .ge, b => (.gt, '=' :: decimal b)
  | op, b => (op, decimal b)

omit hv in
theorem has_symbol_between {x y : Text} (hx : ∀ c ∈ "<>=!".toList, c ∉ x) (hy : ∀ c ∈ "<>=!".toList, c ∉ y)
    (o : Comparison) : has o.symbol (x ++ op.symbol ++ y) = has o.symbol op.symbol := by
  have hsigns : ∀ c ∈ o.symbol, c ∈ "<>=!".toList := by
    intro c hc
    have hall : o.symbol.all ("<>=!".toList.contains ·) := by cases o <;> decide
    exact contains_iff_mem.mp (all_eq_true.mp hall c hc)
  rw [Bool.eq_iff_iff, has_iff, has_iff]
  exact infix_between_iff (by cases o <;> decide) (fun c hc => hx c (hsigns c hc)) fun c hc => hy c (hsigns c hc)

theorem IsVariable.unsigned : ∀ c ∈ "<>=!".toList, c ∉ v := by
  have hall : "<>=!".toList.all (fun c => !isNameChar c) := by decide
  exact fun c hc => hv.not_mem c (by simpa using all_eq_true.mp hall c hc)

theorem has_symbol_condition (o : Comparison) : has o.symbol (condition v op b) = has o.symbol op.symbol := by
  have hall : "<>=!".toList.all (fun c => !c.isDigit && c != '-') := by decide
  refine has_symbol_between hv.unsigned (fun c hc => ?_) o
  have hother : c.isDigit = false ∧ c ≠ '-' := by simpa using all_eq_true.mp hall c hc
  exact not_mem_decimal hother.1 hother.2

theorem find?_condition : Comparison.find? (condition v op b) = some (op.reading b).1 := by
  simp only [Comparison.find?, has_symbol_condition hv]
  cases op <;> rfl

theorem splitOn_condition : splitOn (op.reading b).1.symbol (condition v op b) = [v, (op.reading b).2] := by
  have hnumber (c : Char) (hc : c.isDigit = false ∧ c ≠ '-') : c ∉ decimal b := not_mem_decimal hc.1 hc.2
  rw [condition, append_assoc]
  cases op with
  | le | lt => exact splitOn_of_not_mem (hv.not_mem '<' rfl) (hnumber '<' (by decide))
  | gt => exact splitOn_of_not_mem (hv.not_mem '>' rfl) (hnumber '>' (by decide))
  | ge =>
    have hright : '>' ∉ '=' :: decimal b := by
      simp [hnumber '>' (by decide)]
    exact splitOn_of_not_mem (hv.not_mem '>' rfl) hright
  | eq => exact splitOn_of_not_mem (hv.not_mem '=' rfl) (hnumber '=' (by decide))
  | ne => exact splitOn_of_not_mem (hv.not_mem '!' rfl) (hnumber '!' (by decide))

/-! ### The loop -/

/-- The lines of a loop over a range: a variable is defined, and then one runs. -/
def rangeLines (w defined v : Text) (a : Int) (start stop : Text) (step : Int) : Text :=
  defined ++ '=' :: decimal a ++ "\n" ++ w ++ "for " ++ v ++ " in range(" ++ start ++ ", " ++
    stop ++ ", " ++ decimal step ++ "):\n"

def rangeEnds (v : Text) (op : Comparison) (b : Int) : Text × Text :=
  (op.reading b).1.range v (op.reading b).2

theorem fields_countedInside :
    fields ';' (countedInside v a op b stride) = [definitionPart v a, conditionPart v op b, stepPart v stride] := by
  rw [countedInside, fields_append_cons ((madeOf_definitionPart hv).not_mem ';' rfl),
    fields_append_cons ((madeOf_conditionPart hv).not_mem ';' (by cases op <;> decide)),
    fields_of_not_mem ((madeOf_stepPart hv).not_mem ';' (by cases stride <;> decide))]

theorem readable_countedInside : Readable (countedInside v a op b stride) := by
  have hmade : MadeOf "; =-+<>!" (countedInside v a op b stride) := by
    refine ((madeOf_definitionPart hv).mono rfl).append (.cons (by decide) ?_)
    refine ((madeOf_conditionPart hv).mono (by cases op <;> decide)).append (.cons (by decide) ?_)
    exact (madeOf_stepPart hv).mono (by cases stride <;> decide)
  exact ⟨by simp [countedInside], .of_not_mem (hmade.not_mem '(' rfl) (hmade.not_mem ')' rfl), hmade.not_mem '\n' rfl⟩

theorem dropUnmatched_rangeLines (hw : Indent w) {n : Int} :
    dropUnmatched (rangeLines w (declaredAs v) v a (rangeEnds v op b).1 (rangeEnds v op b).2 n) =
      rangeLines w (declaredAs v) v a (rangeEnds v op b).1 (rangeEnds v op b).2 n := by
  have hname : MadeOf "=-+(, ):\n" v := hv.madeOf _
  have hdefined : MadeOf "=-+(, ):\n" (declaredAs v) := hv.declaredAs.madeOf _
  have hnumber {i : Int} : MadeOf "=-+(, ):\n" (decimal i) := madeOf_decimal (by decide)
  have hindent : MadeOf "=-+(, ):\n" w := fun c hc => .inr (hw c hc ▸ by decide)
  have hends : MadeOf "=-+(, ):\n" (rangeEnds v op b).1 ∧ MadeOf "=-+(, ):\n" (rangeEnds v op b).2 := by
    cases op with
    | le => exact ⟨hname, (hnumber.cons (by decide)).append (by decide)⟩
    | lt | eq | ne => exact ⟨hname, hnumber⟩
    | gt => exact ⟨hnumber, hname⟩
    | ge => exact ⟨hnumber.cons (by decide), hname⟩
  have hlines : MadeOf "=-+(, ):\n" (rangeLines w (declaredAs v) v a (rangeEnds v op b).1 (rangeEnds v op b).2 n) := by
    have hfor : MadeOf "=-+(, ):\n" "for " := by decide
    have hin : MadeOf "=-+(, ):\n" " in range(" := by decide
    have hcomma : MadeOf "=-+(, ):\n" ", " := by decide
    have hbreak : MadeOf "=-+(, ):\n" "\n" := by decide
    have hend : MadeOf "=-+(, ):\n" "):\n" := by decide
    exact ((((((((((((hdefined.append (hnumber.cons (by decide))).append hbreak).append hindent).append hfor).append
      hname).append hin).append hends.1).append hcomma).append hends.2).append hcomma).append hnumber).append hend)
  exact dropUnmatched_of_not_mem (hlines.not_mem '{' rfl) (hlines.not_mem '}' rfl)

theorem forLoop_countedInside (hw : Indent w) : forLoop w (countedInside v a op b stride) =
    .ok (rangeLines w (declaredAs v) v a (rangeEnds v op b).1 (rangeEnds v op b).2 stride.amount) := by
  have hcomma : ¬[','] <:+: declaredAs v ++ '=' :: decimal a := fun h => by
    have hmem : ',' ∈ declaredAs v ++ '=' :: decimal a := h.subset mem_cons_self
    simp [hv.declaredAs.not_mem ',' rfl, not_mem_decimal] at hmem
  have hlines : definitionLines [definitionPart v a] = .ok (declaredAs v ++ '=' :: decimal a) := by
    have htext : unlines [declaredAs v ++ '=' :: decimal a] = declaredAs v ++ '=' :: decimal a := rfl
    rw [definitionLines_eq, map_singleton, bareDefinition_definitionPart hv, htext,
      replace_of_not_occurs (by decide) hcomma]
  have hcompared := @without_conditionPart v b op hv
  rw [forLoop_of_parts (fields_countedInside hv) ⟨isStep_definitionPart hv, isCondition_definitionPart hv⟩
    ⟨isStep_conditionPart hv, isCondition_conditionPart⟩ ⟨isStep_stepPart, isCondition_stepPart hv⟩
    (hcompared ▸ find?_condition hv) (hcompared ▸ splitOn_condition hv) hlines]
  simp only [if_true, amount_stepPart hv]
  exact congrArg Except.ok (dropUnmatched_rangeLines hv hw)

/-- The line with the header of a loop that counts. -/
def countingHeader (w v : Text) (a : Int) (op : Comparison) (b : Int) (stride : Stride) : Text :=
  w ++ "for (var " ++ v ++ " = " ++ decimal a ++ "; " ++ v ++ " " ++ op.symbol ++
    " " ++ decimal b ++ "; " ++ v ++ [stride.sign, stride.sign] ++ ") \x7b"

omit hv in
theorem convertForLoops_countingHeader (hw : Indent w) (hv : IsVariable v) :
    convertForLoops (countingHeader w v a op b stride) =
      .ok (w ++ rangeLines w (declaredAs v) v a (rangeEnds v op b).1 (rangeEnds v op b).2 stride.amount) := by
  have hline : countingHeader w v a op b stride = headerLine w (countedInside v a op b stride) := by
    simp [countingHeader, headerLine, countedInside, definitionPart, conditionPart, stepPart]
  rw [hline, convertForLoops_headerLine hw (readable_countedInside hv), forLoop_countedInside hv hw]
  rfl

end Geoscript.Script
