import Geoscript.Proofs.Pattern.Accept
import Geoscript.Script.Function.Definition
import Mathlib.Data.List.TakeWhile

/-! Text in braces. The pattern, which calls itself, reads to the place where as many braces are closed as opened
(`matcher_bracedText`), so a search finds what a count finds (`firstBraced?`): the body of a function. -/

namespace Geoscript.Script
open List Pattern
open Text hiding count

/-! ### Counting braces -/

/-- Cuts a text at the brace that closes one already open, with `n` others open besides. -/
def untilShut : Nat → Text → Option (Text × Text)
  | _, [] => none
  | n, c :: t =>
    if c = '{' then (untilShut (n + 1) t).map fun cut => (c :: cut.1, cut.2)
    else if c = '}' then
      match n with
      | 0 => some ([], t)
      | n + 1 => (untilShut n t).map fun cut => (c :: cut.1, cut.2)
    else (untilShut n t).map fun cut => (c :: cut.1, cut.2)

/-- What stands between the first opening brace that is closed and the brace that closes it. -/
def firstBraced? : Text → Option Text
  | [] => none
  | c :: t => if c = '{' then ((untilShut 0 t).map Prod.fst).or (firstBraced? t) else firstBraced? t

structure BracesMatch (u : Text) : Prop where
  opened : ∀ p, p <+: u → count '}' p ≤ count '{' p
  closed : count '{' u = count '}' u

section
variable {n : Nat} {t u b : Text} {c : Char}

/-- The cut is at a closing brace with no other open; every other character is passed, and its own brace is counted. -/
theorem untilShut_cons_cases (n : Nat) (c : Char) :
    (c = '}' ∧ n = 0) ∨ ∃ next, next + count '}' [c] = n + count '{' [c] ∧ ∀ m t,
      untilShut (n + m) (c :: t) = (untilShut (next + m) t).map fun cut => (c :: cut.1, cut.2) := by
  by_cases hopen : c = '{'
  · subst hopen
    exact .inr ⟨n + 1, by simp, fun m t => by simp [untilShut, Nat.add_right_comm n 1 m]⟩
  · by_cases hclose : c = '}'
    · subst hclose
      cases n with
      | zero => exact .inl ⟨rfl, rfl⟩
      | succ n => exact .inr ⟨n, by simp, fun m t => by simp [untilShut, Nat.add_right_comm n 1 m]⟩
    · exact .inr ⟨n, by simp [hopen, hclose], fun m t => by simp [untilShut, hopen, hclose]⟩

theorem untilShut_add (a b : Nat) (t : Text) : untilShut (a + (b + 1)) t =
    (untilShut a t).bind fun cut => (untilShut b cut.2).map fun cut' => (cut.1 ++ '}' :: cut'.1, cut'.2) := by
  induction t generalizing a with
  | nil => rfl
  | cons c t ih =>
    rcases untilShut_cons_cases a c with ⟨rfl, rfl⟩ | ⟨next, -, hstep⟩
    · rw [Nat.zero_add]
      rfl
    · rw [hstep, show untilShut a (c :: t) = _ from hstep 0 t, ih, Option.map_bind, Option.bind_map]
      simp [Function.comp_def]

theorem untilShut_append (hopen : '{' ∉ u) (hclose : '}' ∉ u) (n : Nat) (t : Text) :
    untilShut n (u ++ t) = (untilShut n t).map fun cut => (u ++ cut.1, cut.2) := by
  induction u with
  | nil => simp
  | cons c u ih =>
    rw [mem_cons, not_or] at hopen hclose
    have hkept : untilShut n (c :: (u ++ t)) = (untilShut n (u ++ t)).map fun cut => (c :: cut.1, cut.2) := by
      simp [untilShut, Ne.symm hopen.1, Ne.symm hclose.1]
    rw [cons_append, hkept, ih hopen.2 hclose.2, Option.map_map]
    rfl

theorem untilShut_eq_some_iff : untilShut n t = some (u, b) ↔ t = u ++ '}' :: b ∧
    (∀ p, p <+: u → count '}' p ≤ count '{' p + n) ∧ count '{' u + n = count '}' u := by
  induction t generalizing n u with
  | nil => simp [untilShut]
  | cons c t ih =>
    rcases untilShut_cons_cases n c with ⟨rfl, rfl⟩ | ⟨next, hnext, hstep⟩
    · constructor
      · intro h
        obtain ⟨rfl, rfl⟩ := Prod.mk.inj (Option.some.inj h)
        simp
      · rintro ⟨htext, hopened, -⟩
        cases u with
        | nil =>
          obtain ⟨-, rfl⟩ := cons.inj htext
          rfl
        | cons d u =>
          obtain ⟨rfl, -⟩ := cons.inj htext
          exact absurd (hopened ['}'] ⟨u, rfl⟩) (by simp)
    · have hcount (d : Char) (p : Text) : count d (c :: p) = count d [c] + count d p :=
        @count_append _ _ d [c] p
      rw [show untilShut n (c :: t) = _ from hstep 0 t, Option.map_eq_some_iff]
      constructor
      · rintro ⟨⟨v, _⟩, hv, heq⟩
        obtain ⟨rfl, rfl⟩ := Prod.mk.inj heq
        obtain ⟨rfl, hopened, hclosed⟩ := ih.mp hv
        refine ⟨rfl, fun p hp => ?_, ?_⟩
        · rcases prefix_cons_iff.mp hp with rfl | ⟨q, rfl, hq⟩
          · simp
          · have := hopened q hq
            rw [hcount '}', hcount '{']
            omega
        · rw [hcount '}' v, hcount '{' v]
          omega
      · rintro ⟨htext, hopened, hclosed⟩
        cases u with
        | nil =>
          obtain ⟨rfl, -⟩ := cons.inj htext
          simp only [count_cons_self, count_nil] at hnext hclosed
          exact absurd hnext (by simp; omega)
        | cons d v =>
          obtain ⟨rfl, rfl⟩ := cons.inj htext
          refine ⟨(v, b), ih.mpr ⟨rfl, fun p hp => ?_, ?_⟩, rfl⟩
          · have := hopened (c :: p) (cons_prefix_cons.mpr ⟨rfl, hp⟩)
            rw [hcount '}', hcount '{'] at this
            omega
          · rw [hcount '}', hcount '{'] at hclosed
            omega

/-- The parts of a text before, between and behind an opening brace and the brace that closes it. -/
def IsBraced (t a u b : Text) : Prop :=
  t = a ++ '{' :: (u ++ '}' :: b) ∧ BracesMatch u

theorem untilShut_zero_iff : untilShut 0 t = some (u, b) ↔ IsBraced ('{' :: t) [] u b := by
  rw [untilShut_eq_some_iff]
  constructor
  · rintro ⟨rfl, hopened, hclosed⟩
    exact ⟨rfl, hopened, hclosed⟩
  · rintro ⟨htext, hopened, hclosed⟩
    exact ⟨(cons.inj htext).2, hopened, hclosed⟩

theorem first_cons_iff (hhead : ∀ u b, ¬IsBraced (c :: t) [] u b) :
    (∃ a b, IsBraced (c :: t) a u b ∧ ∀ a' u' b', IsBraced (c :: t) a' u' b' → a <+: a') ↔
      ∃ a b, IsBraced t a u b ∧ ∀ a' u' b', IsBraced t a' u' b' → a <+: a' := by
  have hcons (a u b : Text) : IsBraced (c :: t) (c :: a) u b ↔ IsBraced t a u b := by simp [IsBraced]
  have htail {a u b : Text} (h : IsBraced (c :: t) a u b) : ∃ a', a = c :: a' := by
    cases a with
    | nil => exact absurd h (hhead u b)
    | cons d a => exact ⟨a, by rw [(cons.inj h.1).1]⟩
  constructor
  · rintro ⟨a, b, h, hfirst⟩
    obtain ⟨a, rfl⟩ := htail h
    exact ⟨a, b, (hcons a u b).mp h, fun a' u' b' h' =>
      (cons_prefix_cons.mp (hfirst _ _ _ ((hcons a' u' b').mpr h'))).2⟩
  · rintro ⟨a, b, h, hfirst⟩
    refine ⟨c :: a, b, (hcons a u b).mpr h, fun a' u' b' h' => ?_⟩
    obtain ⟨a', rfl⟩ := htail h'
    exact cons_prefix_cons.mpr ⟨rfl, hfirst _ _ _ ((hcons a' u' b').mp h')⟩

theorem firstBraced?_eq_some_iff :
    firstBraced? t = some u ↔ ∃ a b, IsBraced t a u b ∧ ∀ a' u' b', IsBraced t a' u' b' → a <+: a' := by
  induction t with
  | nil => simp [firstBraced?, IsBraced]
  | cons c t ih =>
    by_cases hopen : c = '{'
    · subst hopen
      rw [firstBraced?, if_pos rfl]
      cases hshut : untilShut 0 t with
      | none =>
        have hnone (u b : Text) : ¬IsBraced ('{' :: t) [] u b := by
          rw [← untilShut_zero_iff, hshut]
          simp
        rw [first_cons_iff hnone, ← ih]
        rfl
      | some cut =>
        have hcut : IsBraced ('{' :: t) [] cut.1 cut.2 := untilShut_zero_iff.mp hshut
        constructor
        · intro h
          obtain rfl : cut.1 = u := Option.some.inj h
          exact ⟨[], cut.2, hcut, fun a' _ _ _ => nil_prefix⟩
        · rintro ⟨a, b, h, hfirst⟩
          obtain rfl : a = [] := prefix_nil.mp (hfirst _ _ _ hcut)
          rw [Option.some.inj (hshut.symm.trans (untilShut_zero_iff.mpr h))]
          rfl
    · rw [firstBraced?, if_neg hopen, first_cons_iff fun u b h => hopen (cons.inj h.1).1, ih]

theorem firstBraced?_isSome {a : Text} (h : IsBraced t a u b) : (firstBraced? t).isSome := by
  obtain ⟨rfl, hmatch⟩ := h
  induction a with
  | nil => simp [firstBraced?, untilShut_zero_iff.mpr ⟨rfl, hmatch⟩]
  | cons c a ih =>
    rw [cons_append, firstBraced?]
    split <;> simp [ih]

theorem firstBraced?_eq_none_iff : firstBraced? t = none ↔ ∀ a u b, ¬IsBraced t a u b := by
  constructor
  · intro hnone a u b h
    simpa [hnone] using firstBraced?_isSome h
  · intro h
    rw [Option.eq_none_iff_forall_ne_some]
    intro u hu
    obtain ⟨a, b, hbraced, -⟩ := firstBraced?_eq_some_iff.mp hu
    exact h a u b hbraced

theorem firstBraced?_of_not_mem {a : Text} (b : Text) (ha : '{' ∉ a) (hu : BracesMatch u) :
    firstBraced? (a ++ '{' :: (u ++ '}' :: b)) = some u := by
  refine firstBraced?_eq_some_iff.mpr ⟨a, b, ⟨rfl, hu⟩, fun a' u' b' h => ?_⟩
  rcases cut_eq_or_behind ha h.1.symm with ⟨rfl, -⟩ | ⟨mid, rfl, -⟩
  · exact prefix_rfl
  · exact prefix_append a _

theorem BracesMatch.of_not_mem (hopen : '{' ∉ u) (hclose : '}' ∉ u) : BracesMatch u where
  opened p hp := by simp [count_eq_zero_of_not_mem fun hmem => hclose (hp.subset hmem)]
  closed := by simp [count_eq_zero_of_not_mem hopen, count_eq_zero_of_not_mem hclose]

end

/-! ### Reading braces -/

def behindBraces? (c : Cursor) : Option Cursor :=
  if c.after.head? = some '{' then (untilShut 0 c.after.tail).map fun cut =>
    ⟨'}' :: (cut.1.reverse ++ '{' :: c.before), cut.2, c.pos + cut.1.length + 2⟩
  else none

def bracedPiece : Pattern :=
  .atomic (.either (.plus (.except "\x7b\x7d")) (.call 0))

section
variable {inner : Nat → Matcher} {c : Cursor} {caps : Captures} {k : Continuation} {room n most : Nat}

theorem braces_has {ch : Char} : (CharSet.except "\x7b\x7d").has ch ↔ ch ≠ '{' ∧ ch ≠ '}' := by
  simp [CharSet.except, CharSet.has, CharClass.covers]

theorem braces_not_has {ch : Char} : (CharSet.except "\x7b\x7d").has ch = false ↔ ch = '{' ∨ ch = '}' := by
  simp [CharSet.except, CharSet.has, CharClass.covers, Decidable.or_iff_not_imp_left]

theorem exists_plain (t : Text) : ∃ u rest, t = u ++ rest ∧ (∀ ch ∈ u, ch ≠ '{' ∧ ch ≠ '}') ∧
    ∀ ch ∈ rest.head?, ch = '{' ∨ ch = '}' := by
  refine ⟨_, _, (t.takeWhile_append_dropWhile (p := (CharSet.except "\x7b\x7d").has)).symm,
    fun ch hch => braces_has.mp (mem_takeWhile_imp hch), fun ch hch => ?_⟩
  have hnot := t.head?_dropWhile_not (CharSet.except "\x7b\x7d").has
  rw [Option.mem_def.mp hch] at hnot
  exact braces_not_has.mp hnot

theorem piece_of_plain {u t : Text} (hu : u ≠ []) (hplain : ∀ ch ∈ u, ch ≠ '{' ∧ ch ≠ '}') (hafter : c.after = u ++ t)
    (ht : ∀ ch ∈ t.head?, ch = '{' ∨ ch = '}') :
    matcher inner .forward bracedPiece c caps k = k ⟨u.reverse ++ c.before, t, c.pos + u.length⟩ caps := by
  have hplus : matcher inner .forward (.plus (.except "\x7b\x7d")) c caps (fun c' caps' => some ⟨c', caps'⟩) =
      some ⟨⟨u.reverse ++ c.before, t, c.pos + u.length⟩, caps⟩ :=
    longest_of_after (length_pos_iff.mpr hu) (fun ch hch => braces_has.mpr (hplain ch hch))
      (fun ch hch => braces_not_has.mpr (ht ch hch)) hafter rfl
  rw [bracedPiece, matcher_atomic, either_of_left hplus]
  rfl

section
variable (hcall : ∀ (c : Cursor) (caps : Captures) (k : Cursor → Option Ending), c.after.length ≤ most →
  inner 0 c caps (fun c' _ => k c') = (behindBraces? c).bind k)
include hcall

theorem piece_of_brace (hmost : c.after.length ≤ most) (h : ∀ ch ∈ c.after.head?, ch = '{' ∨ ch = '}') :
    matcher inner .forward bracedPiece c caps k = (behindBraces? c).bind fun c' => k c' caps := by
  have hplus : matcher inner .forward (.plus (.except "\x7b\x7d")) c caps (fun c' caps' => some ⟨c', caps'⟩) = none := by
    rw [Pattern.plus, matcher_longest]
    cases hafter : c.after with
    | nil => rfl
    | cons d t =>
      rw [runLongest, braces_not_has.mpr (h d (by rw [hafter]; rfl))]
      rfl
  have hread : matcher inner .forward (.call 0) c caps (fun c' caps' => some ⟨c', caps'⟩) =
      (behindBraces? c).bind fun c' => some ⟨c', caps⟩ := hcall c caps (fun c' => some ⟨c', caps⟩) hmost
  rw [bracedPiece, matcher_atomic, either_of_right hplus, hread, Option.bind_assoc]
  rfl

theorem pieces_shut (hroom : c.after.length ≤ room) (hmost : c.after.length ≤ most) :
    manyMatcher (matcher inner .forward bracedPiece) .longest none room n 0 c caps
        (fun c' caps' => matcher inner .forward (.lit ['}']) c' caps' k) =
      (untilShut 0 c.after).bind fun cut =>
        k ⟨'}' :: (cut.1.reverse ++ c.before), cut.2, c.pos + cut.1.length + 1⟩ caps := by
  induction room generalizing c n with
  | zero =>
    have hnil : c.after = [] := length_eq_zero_iff.mp (Nat.le_zero.mp hroom)
    show matcher inner .forward (.lit ['}']) c caps k = _
    rw [matcher_lit, hnil]
    rfl
  | succ room ih =>
    rw [manyMatcher_succ, if_neg (Nat.not_lt_zero n), matcher_lit]
    cases hafter : c.after with
    | nil =>
      rw [piece_of_brace hcall hmost (by simp [hafter])]
      simp [behindBraces?, hafter, untilShut]
    | cons d t =>
      rw [hafter, length_cons] at hroom
      by_cases hopen : d = '{'
      · subst hopen
        rw [piece_of_brace hcall hmost (by simp [hafter]), show untilShut 0 ('{' :: t) = _ from
          (by rw [untilShut, if_pos rfl, show 0 + 1 = 0 + (0 + 1) from rfl, untilShut_add])]
        cases hshut : untilShut 0 t with
        | none => simp [behindBraces?, hafter, hshut]
        | some cut =>
          have hbehind : behindBraces? c =
              some ⟨'}' :: (cut.1.reverse ++ '{' :: c.before), cut.2, c.pos + cut.1.length + 2⟩ := by
            simp [behindBraces?, hafter, hshut]
          obtain ⟨rfl, -⟩ := untilShut_eq_some_iff.mp hshut
          rw [hafter] at hmost
          simp only [length_append, length_cons] at hroom hmost
          rw [hbehind, Option.bind_some, if_neg (by dsimp only; omega), ih (by simp; omega) (by simp; omega), Option.bind_some]
          cases untilShut 0 cut.2 with
          | none => rfl
          | some cut' => simp [Nat.add_assoc, Nat.add_comm, Nat.add_left_comm]
      · by_cases hclose : d = '}'
        · subst hclose
          rw [piece_of_brace hcall hmost (by simp [hafter])]
          simp [behindBraces?, hafter, untilShut]
        · obtain ⟨u, rest, hsplit, hplain, hrest⟩ := exists_plain (d :: t)
          have hu : u ≠ [] := by
            rintro rfl
            rcases hrest d (by rw [← nil_append rest, ← hsplit]; rfl) with h | h
            · exact hopen h
            · exact hclose h
          have hlen : 0 < u.length := length_pos_iff.mpr hu
          rw [← length_cons, hsplit, length_append] at hroom
          rw [hafter, hsplit, length_append] at hmost
          rw [piece_of_plain hu hplain (hafter.trans hsplit) hrest, if_neg (by dsimp only; omega),
            ih (by dsimp only; omega) (by dsimp only; omega), hsplit,
            untilShut_append (fun h => (hplain _ h).1 rfl) fun h => (hplain _ h).2 rfl, if_neg]
          · cases untilShut 0 rest with
            | none => rfl
            | some cut => simp [Nat.add_assoc]
          · rw [← hsplit]
            simp [Ne.symm hclose]

theorem matcher_bracedText (hmost : c.after.length ≤ most + 1) : matcher inner .forward bracedText c caps k =
      (behindBraces? c).bind fun c' => k c' ((1, ⟨c, c'.pos⟩) :: caps) := by
  show matcher inner .forward (.group 1 (.seq (.lit ['{']) (.seq (.many bracedPiece .longest 0 none) (.lit ['}'])))) _ _ _
    = _
  rw [matcher_group, matcher_seq, matcher_lit]
  cases hafter : c.after with
  | nil => simp [behindBraces?, hafter]
  | cons d t =>
    rw [hafter, length_cons] at hmost
    by_cases hopen : d = '{'
    · subst hopen
      rw [if_pos (by simp), matcher_seq, matcher_many, pieces_shut hcall (by simp) (by simp; omega)]
      cases hshut : untilShut 0 t <;> simp [behindBraces?, hafter, hshut, Nat.add_right_comm]
    · simp [behindBraces?, hafter, hopen, Ne.symm hopen]

end

theorem calls_bracedText (depth : Nat) (c : Cursor) (caps : Captures) (k : Cursor → Option Ending)
    (h : c.after.length ≤ depth) :
    calls bracedText depth 0 c caps (fun c' _ => k c') = (behindBraces? c).bind k := by
  induction depth generalizing c caps k with
  | zero =>
    have hnil : c.after = [] := length_eq_zero_iff.mp (Nat.le_zero.mp h)
    simp [behindBraces?, hnil, calls]
  | succ depth ih =>
    have hwhole : bracedText.part 0 = some bracedText := rfl
    simp only [calls, hwhole]
    exact matcher_bracedText ih h

theorem matchAt_bracedText {depth : Nat} (h : c.after.length ≤ depth) : bracedText.matchAt depth false c =
      (behindBraces? c).map fun c' => ⟨c, c', [(1, ⟨c, c'.pos⟩)]⟩ := by
  rw [matchAt, matcher_bracedText (calls_bracedText depth) (Nat.le_succ_of_le h)]
  cases behindBraces? c <;> rfl

theorem searchFrom_bracedText {depth : Nat} {before t : Text} {pos : Nat} (h : t.length ≤ depth) :
    (bracedText.searchFrom depth false before t pos).map Match.text =
      (firstBraced? t).map fun u => '{' :: u ++ ['}'] := by
  induction t generalizing before pos with
  | nil =>
    rw [searchFrom, matchAt_bracedText h]
    rfl
  | cons d t ih =>
    rw [length_cons] at h
    rw [searchFrom, matchAt_bracedText (by simpa using h), firstBraced?]
    by_cases hopen : d = '{'
    · subst hopen
      cases hshut : untilShut 0 t with
      | none => simpa [behindBraces?, hshut] using ih (by omega)
      | some cut =>
        have htext : t = cut.1 ++ '}' :: cut.2 := (untilShut_eq_some_iff.mp hshut).1
        have hlength (n : Nat) : pos + n + 2 - pos = n + 1 + 1 := by omega
        simp only [behindBraces?, hshut, Match.text, Cursor.upTo, hlength, head?_cons, tail_cons, if_true,
          Option.map_some, Option.some_or, take_succ_cons, cons_append, Option.some.injEq, cons.injEq,
          true_and]
        rw [htext, take_append, take_of_length_le (by omega)]
        simp
    · simpa [behindBraces?, hopen] using ih (by omega)

theorem search?_bracedText (t : Text) :
    (bracedText.search? t).map Match.text = (firstBraced? t).map fun u => '{' :: u ++ ['}'] := by
  rw [search?]
  exact searchFrom_bracedText (Nat.le_succ _)

end

/-! ### The body of a function -/

/-- The name of the function in a text, read or drawn, and the supply after it. -/
def named (t : Text) (s : NameSupply) : Text × NameSupply :=
  match functionName.search? t with
  | some m => (m.group 1, s)
  | none => s.next

def argumentsIn (t : Text) : Text :=
  match functionArguments.search? t with
  | none => []
  | some m => join ", " ((fields ',' (m.group 1 ++ m.group 2)).map optionalArgument)

theorem readFunction_eq (t : Text) (s : NameSupply) : readFunction t s = ((firstBraced? t).map fun u =>
      (⟨(named t s).1, (functionName.search? t).isNone, argumentsIn t, trimEnd u, t.takeWhile isSpace⟩,
        (named t s).2)).elim (.error .noBody) .ok := by
  have hsearch := search?_bracedText t
  simp only [readFunction, named, argumentsIn]
  cases hu : firstBraced? t with
  | none =>
    have hnone : bracedText.search? t = none := by simpa [hu] using hsearch
    rw [hnone]
    cases functionName.search? t <;> rfl
  | some u =>
    obtain ⟨m, hm, htext⟩ : ∃ m, bracedText.search? t = some m ∧ m.text = '{' :: u ++ ['}'] := by
      simpa [hu] using hsearch
    have hbody : (m.text.drop 1).dropLast = u := by simp [htext]
    rw [hm]
    simp only [hbody]
    cases functionName.search? t <;> rfl

theorem convertFunction_body (t : Text) (s : NameSupply) :
    (convertFunction t s).map (·.1.body) = (readFunction t s).map (·.1.body) := by
  show (Except.bind (readFunction t s) _).map _ = _
  cases readFunction t s with
  | error e => rfl
  | ok r => cases functionTarget.search? t <;> rfl

theorem convertCallback_body (t : Text) (s : NameSupply) :
    (convertCallback t s).map (·.1.body) = (readFunction t s).map (·.1.body) := by
  show (Except.bind (readFunction t s) _).map _ = _
  cases readFunction t s <;> rfl

/-- The body of a function is what stands in the first braces that are closed, without blanks at its end, and only
without such braces there is no function. -/
theorem body_is_first_braced (t : Text) (s : NameSupply) :
    (convertFunction t s).map (·.1.body) = ((firstBraced? t).map trimEnd).elim (.error .noBody) .ok ∧
    (convertCallback t s).map (·.1.body) = ((firstBraced? t).map trimEnd).elim (.error .noBody) .ok ∧
    (firstBraced? t = none ↔ ∀ a u b, ¬IsBraced t a u b) ∧
    ∀ u, firstBraced? t = some u ↔ ∃ a b, IsBraced t a u b ∧ ∀ a' u' b', IsBraced t a' u' b' → a <+: a' := by
  have hbody : (readFunction t s).map (·.1.body) = ((firstBraced? t).map trimEnd).elim (.error .noBody) .ok := by
    rw [readFunction_eq]
    cases firstBraced? t <;> rfl
  refine ⟨?_, ?_, firstBraced?_eq_none_iff, fun u => firstBraced?_eq_some_iff⟩
  · rw [convertFunction_body, hbody]
  · rw [convertCallback_body, hbody]

end Geoscript.Script
