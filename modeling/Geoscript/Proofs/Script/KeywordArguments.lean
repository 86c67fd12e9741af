import Geoscript.Proofs.Pattern.Enclosed
import Geoscript.Proofs.Script.Name
import Geoscript.Proofs.Script.Operator
import Geoscript.Proofs.Text.Growth
import Geoscript.Script.Object

/-! Objects passed as keyword arguments. A script is written as gaps with an object in braces behind each; those
behind a word and an opening parenthesis are found, and their insides replaced wherever they stand
(`passAsKeywords_weave`). -/

namespace Geoscript.Script
open List Text Pattern

/-! ### Gaps and objects -/

def NoBrace (t : Text) : Prop :=
  '{' ∉ t ∧ '}' ∉ t

def object (inside : Text) : Text :=
  '{' :: (inside ++ ['}'])

def lastWord (t : Text) : Text :=
  (t.reverse.takeWhile isWord).reverse

/-- The function that an object behind the gap is passed to; empty if it is not passed to one. -/
def callee (gap : Text) : Text :=
  if gap.getLast? = some '(' then lastWord gap.dropLast else []

/-- The calls of a script with their functions and the insides of the objects. -/
def objectCalls (parts : List (Text × Text)) : List (Text × Text) :=
  (parts.map fun part => (callee part.1, part.2)).filter fun call => !call.1.isEmpty

def passed (parts : List (Text × Text)) : List Text :=
  ((objectCalls parts).filter fun call => !objectFunctions.contains call.1).map (·.2)

def stars (insides : List Text) (inside : Text) : Text :=
  if inside ∈ insides then "**" else []

/-- The gaps with the objects behind them, of which those with one of the given insides are starred. -/
def starred (insides : List Text) (parts : List (Text × Text)) : List (Text × Text) :=
  parts.map fun part => (part.1, stars insides part.2 ++ object part.2)

def unstar (gap : Text) : Text :=
  if "ee.Dictionary(**".toList.isSuffixOf gap then gap.dropLast.dropLast else gap

structure Flat (parts : List (Text × Text)) (last : Text) : Prop where
  gaps : ∀ part ∈ parts, NoBrace part.1
  insides : ∀ part ∈ parts, NoBrace part.2
  last : NoBrace last

def Closed : List (Text × Text) → Text → Prop
  | [], _ => True
  | part :: parts, last =>
    (callee part.1 ≠ [] → (weave (starred [] parts) last).head? = some ')') ∧ Closed parts last

section
variable {parts : List (Text × Text)} {part : Text × Text} {last x w : Text}

theorem Flat.tail (h : Flat (part :: parts) last) : Flat parts last :=
  ⟨fun q hq => h.gaps q (mem_cons_of_mem _ hq), fun q hq => h.insides q (mem_cons_of_mem _ hq), h.last⟩

theorem stars_nil (inside : Text) : stars [] inside = [] :=
  if_neg not_mem_nil

/-! ### The word before a call -/

theorem lastWord_eq (hw : ∀ c ∈ w, isWord c) (hx : ∀ c ∈ x.getLast?, isWord c = false) : lastWord (x ++ w) = w := by
  have hstop : x.reverse.takeWhile isWord = [] := by
    cases hx' : x.reverse with
    | nil => rfl
    | cons c rest =>
      have hc := hx c (by rw [← head?_reverse, hx']; rfl)
      exact takeWhile_cons_of_neg (by simp [hc])
  rw [lastWord, reverse_append, takeWhile_append_of_pos (by simpa using hw), hstop, append_nil, reverse_reverse]

theorem exists_lastWord (t : Text) : ∃ x, t = x ++ lastWord t ∧ (∀ c ∈ lastWord t, isWord c) ∧
    ∀ c ∈ x.getLast?, isWord c = false := by
  refine ⟨(t.reverse.dropWhile isWord).reverse, ?_, ?_, ?_⟩
  · rw [lastWord, ← reverse_append, takeWhile_append_dropWhile, reverse_reverse]
  · intro c hc
    rw [lastWord, mem_reverse] at hc
    exact mem_takeWhile_imp hc
  · intro c hc
    rw [getLast?_reverse] at hc
    have hnot := head?_dropWhile_not isWord t.reverse
    rw [Option.mem_def.mp hc] at hnot
    simpa using hnot

theorem lastWord_ne_nil (hne : w ≠ []) (hw : ∀ c ∈ w, isWord c) : lastWord (x ++ w) ≠ [] := by
  intro hnil
  obtain ⟨y, hy, -, hlast⟩ := exists_lastWord (x ++ w)
  obtain ⟨front, d, rfl⟩ := (eq_nil_or_concat' w).resolve_left hne
  have hd := hlast d (by rw [← append_nil y, ← hnil, ← hy]; simp)
  rw [hw d (by simp)] at hd
  cases hd

theorem callee_concat (t : Text) : callee (t ++ ['(']) = lastWord t := by
  simp [callee]

theorem exists_of_callee {gap : Text} (h : callee gap ≠ []) : ∃ x, gap = x ++ callee gap ++ ['('] ∧
    (∀ c ∈ callee gap, isWord c) ∧ ∀ c ∈ x.getLast?, isWord c = false := by
  by_cases hlast : gap.getLast? = some '('
  · obtain ⟨t, rfl⟩ := getLast?_eq_some_iff.mp hlast
    rw [callee_concat]
    obtain ⟨x, hx, hrest⟩ := exists_lastWord t
    exact ⟨x, by rw [← hx], hrest⟩
  · exact absurd (if_neg hlast) h

theorem callee_cons {c : Char} (hc : isWord c = false) (hparen : c ≠ '(') (gap : Text) :
    callee (c :: gap) = callee gap := by
  rcases eq_nil_or_concat' gap with rfl | ⟨t, d, rfl⟩
  · simp [callee, hparen]
  · by_cases hd : d = '('
    · subst hd
      obtain ⟨x, hx, hwords, hlast⟩ := exists_lastWord t
      rw [← cons_append, callee_concat, callee_concat]
      conv_lhs => rw [hx, ← cons_append]
      refine lastWord_eq hwords fun e he => ?_
      rcases eq_nil_or_concat' x with rfl | ⟨y, b, rfl⟩
      · obtain rfl : e = c := by simpa using he.symm
        exact hc
      · rw [← cons_append, getLast?_concat] at he
        exact hlast e (by rwa [getLast?_concat])
    · have hd : some d ≠ some '(' := fun h => hd (Option.some.inj h)
      rw [callee, callee, ← cons_append, getLast?_concat, getLast?_concat, if_neg hd, if_neg hd]

end

/-! ### The calls that are found -/

section
variable {c : Cursor} {m : Match} {depth : Nat} {moving : Bool} {s w inside rest : Text}

theorem call_of_matchAt (h : objectCall.matchAt depth moving c = some m) :
    ∃ w rest, w ≠ [] ∧ (∀ ch ∈ w, isWord ch) ∧ c.after = w ++ '(' :: '{' :: rest := by
  obtain ⟨-, m₁, ⟨caps, ⟨w, hlen, hw, hover, -⟩, -⟩, m₂, ⟨hopen, -⟩, -⟩ := reads_of_matchAt h
  refine ⟨w, m₂.1.after, length_pos_iff.mp hlen, fun ch hch => (has_word ch).symm.trans (hw ch hch), ?_⟩
  have hword : c.after = w ++ m₁.1.after := hover.after
  rw [hword, hopen.after]
  rfl

theorem brace_not_mem (hw : ∀ ch ∈ w, isWord ch) : '{' ∉ w ++ ['('] := by
  have hbrace : '{' ∉ w := fun h => absurd (hw _ h) (by decide)
  simpa using hbrace

theorem eq_of_matchAt_open (hs : '{' ∉ s) (hafter : c.after = s ++ '{' :: rest)
    (h : objectCall.matchAt depth moving c = some m) : ∃ w, w ≠ [] ∧ (∀ ch ∈ w, isWord ch) ∧ s = w ++ ['('] := by
  obtain ⟨w, more, hne, hw, hmore⟩ := call_of_matchAt h
  refine ⟨w, hne, hw, ?_⟩
  have hcut : (w ++ ['(']) ++ '{' :: more = s ++ '{' :: rest := by
    rw [← hafter, hmore]
    simp
  exact (cut_unique hs (brace_not_mem hw) hcut).1.symm

theorem matchAt_inside_eq_none (hs : '{' ∉ s) (hafter : c.after = s ++ '}' :: rest) :
    objectCall.matchAt depth moving c = none := by
  rw [Option.eq_none_iff_forall_ne_some]
  intro m hm
  obtain ⟨w, more, -, hw, hmore⟩ := call_of_matchAt hm
  have hclose : '}' ∉ w ++ ['(', '{'] := by
    have hbrace : '}' ∉ w := fun h => absurd (hw _ h) (by decide)
    simpa using hbrace
  have hpre : w ++ ['(', '{'] <+: s ++ '}' :: rest := ⟨more, by rw [← hafter, hmore]; simp⟩
  exact hs ((prefix_of_prefix_append_cons hclose hpre).subset (by simp))

theorem matchAt_objectCall (hne : w ≠ []) (hw : ∀ ch ∈ w, isWord ch) (hinside : '}' ∉ inside)
    (hafter : c.after = w ++ '(' :: '{' :: (inside ++ '}' :: ')' :: rest)) :
    ∃ m, objectCall.matchAt depth moving c = some m ∧ m.group 1 = w ∧ m.group 2 = inside ∧ m.stop.after = rest := by
  have hform : objectCall = .seq (.group 1 (.run .word .longest 1 none)) (.seq (.lit ['(', '{'])
      (.seq (.group 2 (.starFew .any)) (.lit ['}', ')']))) := rfl
  have hpos : 0 < w.length := length_pos_iff.mpr hne
  have hmoved : ∀ {c' : Cursor} {caps : Captures}, c'.pos = c.pos + w.length + 2 + inside.length + 2 →
      stopAt moving c.pos c' caps = some ⟨c', caps⟩ := fun h => stopAt_of_lt (by omega)
  have hbefore : Before inside ['}', ')'] rest := before_pair (by decide) fun h => hinside (h.subset (by simp))
  have hwords : ∀ ch ∈ w, CharSet.word.has ch := fun ch hch => (has_word ch).trans (hw ch hch)
  obtain ⟨e, he, hgroups⟩ : ∃ e, matcher (Pattern.calls objectCall depth) .forward objectCall c []
      (stopAt moving c.pos) = some e ∧ Match.group ⟨c, e.stop, e.captures⟩ 1 = w ∧
      Match.group ⟨c, e.stop, e.captures⟩ 2 = inside ∧ e.stop.after = rest := by
    generalize Pattern.calls objectCall depth = inner
    rw [hform]
    simp only [matcher_seq]
    rw [matcher_group, longest_of_after hpos hwords (by simp; decide) hafter]
    · rw [lit_of_after (t := ['(', '{']) rfl, group_few_of_first hbefore rfl]
      · rw [hmoved rfl]
        refine ⟨_, rfl, ?_, ?_, rfl⟩
        · show c.after.take (c.pos + w.length - c.pos) = w
          rw [Nat.add_sub_cancel_left, hafter, take_left]
        · show (inside ++ (['}', ')'] ++ rest)).take
            (c.pos + w.length + 2 + inside.length - (c.pos + w.length + 2)) = inside
          rw [Nat.add_sub_cancel_left, take_left]
      · exact Option.isSome_of_eq_some (hmoved rfl)
    · rw [lit_of_after (t := ['(', '{']) rfl, group_few_of_first hbefore rfl]
      · exact Option.isSome_of_eq_some (hmoved rfl)
      · exact Option.isSome_of_eq_some (hmoved rfl)
  exact ⟨_, matchAt_of_matcher he, hgroups⟩

theorem matchesFrom_of_no_callee {gap : Text} {fuel : Nat} (hgap : NoBrace gap) (hinside : NoBrace inside)
    (hcallee : callee gap = []) (hafter : c.after = gap ++ object inside ++ rest) :
    ∃ c', c'.after = rest ∧
      objectCall.matchesFrom depth fuel moving c = objectCall.matchesFrom depth fuel false c' := by
  obtain ⟨c', hc', hrest⟩ := Cursor.exists_over hafter
  have hne : (gap ++ object inside).isEmpty = false := by simp [object]
  refine ⟨c', hrest, (matchesFrom_skip hc' fun v w c₁ hcut hw hc₁ => ?_).trans (by rw [hne, Bool.and_false])⟩
  have hafter₁ : c₁.after = w ++ rest := by
    have hboth : v ++ (w ++ rest) = v ++ c₁.after := by
      rw [← append_assoc, ← hcut, ← hafter, hc₁.after]
    exact (append_cancel_left hboth).symm
  rcases append_eq_append_iff.mp hcut with ⟨t, hv, hobject⟩ | ⟨t, hv, hw'⟩
  · cases t with
    | nil =>
      -- The object starts here, and a call does not start with a brace.
      rw [Option.eq_none_iff_forall_ne_some]
      intro m hm
      obtain ⟨u, hu, -, hnil⟩ := eq_of_matchAt_open (s := []) not_mem_nil
        (by rw [hafter₁, ← nil_append w, ← hobject]; rfl) hm
      simp at hnil
    | cons d t =>
      obtain ⟨front, e, rfl⟩ := (eq_nil_or_concat' w).resolve_left hw
      have htail : inside ++ ['}'] = t ++ front ++ [e] := by
        rw [append_assoc]
        exact (cons.inj hobject).2
      obtain ⟨hfront, he⟩ := append_inj' htail rfl
      obtain ⟨rfl, -⟩ := cons.inj he
      have hfree : '{' ∉ front := fun h => hinside.1 (by rw [hfront]; exact mem_append_right t h)
      have hclose : c₁.after = front ++ '}' :: rest := by
        rw [hafter₁]
        simp
      exact matchAt_inside_eq_none hfree hclose
  · rw [Option.eq_none_iff_forall_ne_some]
    intro m hm
    have ht : '{' ∉ t := fun h => hgap.1 (by rw [hv]; exact mem_append_right v h)
    have hopen : c₁.after = t ++ '{' :: (inside ++ '}' :: rest) := by
      rw [hafter₁, hw']
      simp [object]
    obtain ⟨u, hu, hwords, rfl⟩ := eq_of_matchAt_open ht hopen hm
    rw [hv, ← append_assoc, callee_concat] at hcallee
    exact lastWord_ne_nil hu hwords hcallee

theorem matchesFrom_of_callee {gap : Text} {fuel : Nat} (hgap : NoBrace gap) (hinside : NoBrace inside)
    (hcallee : callee gap ≠ []) (hafter : c.after = gap ++ object inside ++ ')' :: rest) :
    ∃ m moving',
      objectCall.matchesFrom depth (fuel + 1) moving c = m :: objectCall.matchesFrom depth fuel moving' m.stop ∧
      m.group 1 = callee gap ∧ m.group 2 = inside ∧ m.stop.after = rest := by
  obtain ⟨x, hx, hwords, hlast⟩ := exists_of_callee hcallee
  have hafter' : c.after = x ++ (callee gap ++ '(' :: '{' :: (inside ++ '}' :: ')' :: rest)) := by
    rw [hafter]
    conv_lhs => rw [hx]
    simp [object]
  obtain ⟨c', hc', hrest⟩ := Cursor.exists_over hafter'
  obtain ⟨m, hm, hgroup₁, hgroup₂, hstop⟩ := matchAt_objectCall hcallee hwords hinside.2 hrest
  refine ⟨m, _, matchesFrom_of_first hc' (fun v w c₁ hcut hw hc₁ => ?_) hm, hgroup₁, hgroup₂, hstop⟩
  have hafter₁ : c₁.after = (w ++ callee gap ++ ['(']) ++ '{' :: (inside ++ '}' :: ')' :: rest) := by
    have hboth : v ++ (w ++ (callee gap ++ '(' :: '{' :: (inside ++ '}' :: ')' :: rest))) = v ++ c₁.after := by
      rw [← append_assoc, ← hcut, ← hafter', hc₁.after]
    rw [← append_cancel_left hboth]
    simp
  have hbrace : '{' ∉ w ++ callee gap ++ ['('] := fun h => hgap.1 (by
    rw [hx, hcut]
    simp only [mem_append] at h ⊢
    tauto)
  rw [Option.eq_none_iff_forall_ne_some]
  intro m' hm'
  obtain ⟨u, -, hu, heq⟩ := eq_of_matchAt_open hbrace hafter₁ hm'
  obtain ⟨heq, -⟩ := append_inj' heq rfl
  obtain ⟨front, e, rfl⟩ := (eq_nil_or_concat' w).resolve_left hw
  have he := hlast e (by rw [hcut]; simp)
  rw [hu e (by rw [← heq]; simp)] at he
  cases he

/-- The calls of a script are found one after the other, from its start or from behind a parenthesis. -/
theorem matchesFrom_calls {parts : List (Text × Text)} {last pre : Text} {fuel : Nat} (hflat : Flat parts last)
    (hclosed : Closed parts last) (hpre : pre = [] ∨ pre = [')']) (h : weave (starred [] parts) last = pre ++ c.after)
    (hfuel : parts.length < fuel) :
    (objectCall.matchesFrom depth fuel moving c).map (fun m => (m.group 1, m.group 2)) = objectCalls parts := by
  induction parts generalizing c pre fuel moving with
  | nil =>
    have hbrace : '{' ∉ c.after := fun hmem => hflat.last.1 (by
      rw [show last = pre ++ c.after from h]
      exact mem_append_right _ hmem)
    rw [matchesFrom_eq_nil]
    · rfl
    · intro v c₁ moving m hover hm
      obtain ⟨w, more, -, -, hmore⟩ := call_of_matchAt hm
      refine hbrace ?_
      rw [hover.after, hmore]
      simp
  | cons part parts ih =>
    obtain ⟨gap, inside⟩ := part
    have hinside : NoBrace inside := hflat.insides _ mem_cons_self
    have hweave : weave (starred [] ((gap, inside) :: parts)) last =
        gap ++ object inside ++ weave (starred [] parts) last := by
      simp [starred, weave, stars_nil]
    -- A parenthesis that closes the call before belongs to the gap and is not read again.
    obtain ⟨gap', hgap', hcallee, hafter⟩ : ∃ gap', NoBrace gap' ∧ callee gap' = callee gap ∧
        c.after = gap' ++ object inside ++ weave (starred [] parts) last := by
      have hgap : NoBrace gap := hflat.gaps _ mem_cons_self
      rw [hweave] at h
      rcases hpre with rfl | rfl
      · exact ⟨gap, hgap, rfl, h.symm⟩
      · cases gap with
        | nil => cases h
        | cons d gap =>
          obtain ⟨rfl, htail⟩ := cons.inj h
          have hfree : NoBrace gap :=
            ⟨fun hmem => hgap.1 (mem_cons_of_mem _ hmem), fun hmem => hgap.2 (mem_cons_of_mem _ hmem)⟩
          exact ⟨gap, hfree, (callee_cons rfl (by decide) gap).symm, htail.symm⟩
    obtain ⟨fuel, rfl⟩ : ∃ n, fuel = n + 1 := ⟨fuel - 1, by omega⟩
    have hfuel' : parts.length < fuel := by simpa using hfuel
    by_cases hnil : callee gap = []
    · obtain ⟨c', hrest, hmatches⟩ := matchesFrom_of_no_callee hgap' hinside (hcallee.trans hnil) hafter
      rw [hmatches, ih hflat.tail hclosed.2 (.inl rfl) hrest.symm (Nat.lt_succ_of_lt hfuel')]
      simp [objectCalls, hnil]
    · obtain ⟨rest, hrest⟩ := head?_eq_some_iff.mp (hclosed.1 hnil)
      rw [hrest] at hafter
      obtain ⟨m, moving', hmatches, hgroup₁, hgroup₂, hstop⟩ :=
        matchesFrom_of_callee hgap' hinside (fun h => hnil (hcallee.symm.trans h)) hafter
      rw [hmatches, map_cons, ih hflat.tail hclosed.2 (.inr rfl) (by rw [hrest, hstop]; rfl) hfuel',
        hgroup₁, hgroup₂, hcallee]
      simp [objectCalls, hnil]

end

/-! ### The replacements -/

section
variable {parts : List (Text × Text)} {last inside other : Text} {insides : List Text}

theorem closedBy_object (h : NoBrace inside) : ClosedBy '}' (object inside) :=
  ⟨'{' :: inside, by simp [h.2], rfl⟩

theorem noBrace_stars (insides : List Text) (inside : Text) : NoBrace (stars insides inside) := by
  unfold stars
  split
  · exact ⟨by decide, by decide⟩
  · exact ⟨not_mem_nil, not_mem_nil⟩

theorem closedBy_starred (h : NoBrace inside) (insides : List Text) :
    ClosedBy '}' (stars insides inside ++ object inside) :=
  ⟨stars insides inside ++ '{' :: inside, by simp [(noBrace_stars insides inside).2, h.2], by simp [object]⟩

theorem eq_of_suffix_starred (hother : NoBrace other) (h : object inside <:+ stars insides other ++ object other) :
    inside = other := by
  obtain ⟨t, ht⟩ := h
  have hcut : t ++ '{' :: (inside ++ ['}']) = stars insides other ++ '{' :: (other ++ ['}']) := ht
  rcases cut_eq_or_behind (noBrace_stars insides other).1 hcut with ⟨-, heq⟩ | ⟨mid, -, heq⟩
  · exact (append_inj' heq rfl).1
  · have hmem : '{' ∈ other ++ ['}'] := by rw [heq]; simp
    simp [hother.1] at hmem

theorem replace_object (hflat : Flat parts last) (hinside : NoBrace inside) (hnew : inside ∉ insides) :
    replace (object inside) ("**" ++ object inside) (weave (starred insides parts) last) =
      weave (starred (inside :: insides) parts) last := by
  have hmem : '{' ∈ object inside := mem_cons_self
  rw [replace_weave (closedBy_object hinside)]
  · refine congrArg (weave · last) ?_
    rw [starred, starred, map_map]
    refine map_congr_left fun part hpart => Prod.ext rfl ?_
    show settle _ _ (stars insides part.2 ++ object part.2) = _
    by_cases heq : part.2 = inside
    · rw [heq, stars, if_neg hnew, nil_append, stars, if_pos mem_cons_self]
      exact settle_append []
    · have hstars : stars (inside :: insides) part.2 = stars insides part.2 := by
        simp [stars, heq]
      rw [hstars, settle_of_not_suffix]
      exact fun h => heq (eq_of_suffix_starred (hflat.insides part hpart) h).symm
  · intro part hpart h
    obtain ⟨q, hq, rfl⟩ := mem_map.mp hpart
    exact (hflat.gaps q hq).1 (h.subset hmem)
  · exact fun h => hflat.last.1 (h.subset hmem)
  · intro part hpart
    obtain ⟨q, hq, rfl⟩ := mem_map.mp hpart
    exact closedBy_starred (hflat.insides q hq) insides
  · intro part hpart x hx hsuffix heq
    obtain ⟨q, hq, rfl⟩ := mem_map.mp hpart
    obtain ⟨d, x, rfl⟩ := exists_cons_of_ne_nil hx
    obtain ⟨rfl, -⟩ := cons.inj heq
    exact (hflat.gaps q hq).1 (hsuffix.subset mem_cons_self)

theorem foldl_replace_object (hflat : Flat parts last) {found : List Text} (hfound : ∀ d ∈ found, NoBrace d)
    (hnodup : found.Nodup) (hnew : ∀ d ∈ found, d ∉ insides) :
    found.foldl (fun t d => replace (object d) ("**" ++ object d) t) (weave (starred insides parts) last) =
      weave (starred (found.reverse ++ insides) parts) last := by
  induction found generalizing insides with
  | nil => rfl
  | cons d found ih =>
    rw [forall_mem_cons] at hfound hnew
    rw [nodup_cons] at hnodup
    rw [foldl_cons, replace_object hflat hfound.1 hnew.1, ih hfound.2 hnodup.2, reverse_cons,
      append_assoc, singleton_append]
    intro e he hmem
    rcases mem_cons.mp hmem with rfl | hmem
    · exact hnodup.1 he
    · exact hnew.2 e he hmem

theorem starred_congr {insides' : List Text} (h : ∀ d, d ∈ insides ↔ d ∈ insides') :
    starred insides parts = starred insides' parts := by
  refine map_congr_left fun part _ => ?_
  simp only [stars, h]

theorem replace_dictionary_open {u v : Text} (hu : '{' ∉ u) (hv : '{' ∉ v) :
    replace "ee.Dictionary(**\x7b".toList "ee.Dictionary(\x7b".toList (u ++ '{' :: v) = unstar u ++ '{' :: v := by
  have hform : "ee.Dictionary(**\x7b".toList = "ee.Dictionary(**".toList ++ '{' :: [] := rfl
  rw [hform]
  by_cases hsuffix : "ee.Dictionary(**".toList <:+ u
  · have hunstar : unstar u = u.dropLast.dropLast := if_pos (isSuffixOf_iff_suffix.mpr hsuffix)
    obtain ⟨t, rfl⟩ := hsuffix
    rw [hunstar]
    refine (replace_around hu hv).trans ?_
    have hcut : t ++ "ee.Dictionary(**".toList = t ++ "ee.Dictionary(".toList ++ ['*'] ++ ['*'] := by simp
    rw [hcut, dropLast_concat, dropLast_concat]
    simp
  · have hunstar : unstar u = u := if_neg fun h => hsuffix (isSuffixOf_iff_suffix.mp h)
    rw [hunstar, replace_of_not_occurs (by simp)]
    exact fun h => hsuffix ((infix_around_iff hu hv).mp h).1

theorem replace_dictionary (hflat : Flat parts last) :
    replace "ee.Dictionary(**\x7b".toList "ee.Dictionary(\x7b".toList (weave (starred insides parts) last) =
      weave (parts.map fun part => (unstar (part.1 ++ stars insides part.2), object part.2)) last := by
  have hold : "ee.Dictionary(**\x7b".toList ≠ [] := by simp
  induction parts with
  | nil => exact replace_of_not_occurs hold fun h => hflat.last.1 (h.subset (by decide))
  | cons part parts ih =>
    have hgap : '{' ∉ part.1 ++ stars insides part.2 := by
      simpa [(noBrace_stars insides part.2).1] using (hflat.gaps part mem_cons_self).1
    have hinside : '{' ∉ part.2 := (hflat.insides part mem_cons_self).1
    have hcut : weave (starred insides (part :: parts)) last =
        (part.1 ++ stars insides part.2 ++ '{' :: part.2) ++ '}' :: weave (starred insides parts) last := by
      simp [starred, weave, object]
    rw [hcut, replace_append_cons hold (by decide), replace_dictionary_open hgap hinside, ih hflat.tail]
    simp [weave, object]

theorem noBrace_of_passed (hflat : Flat parts last) (h : inside ∈ passed parts) : NoBrace inside := by
  simp only [passed, objectCalls, mem_map, mem_filter] at h
  obtain ⟨call, ⟨⟨⟨part, hpart, rfl⟩, -⟩, -⟩, rfl⟩ := h
  exact hflat.insides part hpart

theorem length_le_weave (insides : List Text) (parts : List (Text × Text)) (last : Text) :
    parts.length ≤ (weave (starred insides parts) last).length := by
  induction parts with
  | nil => exact Nat.zero_le _
  | cons part parts ih =>
    simp only [starred, map_cons, weave, object, length_append, length_cons] at ih ⊢
    omega

theorem passedInsides_weave (hflat : Flat parts last) (hclosed : Closed parts last) :
    passedInsides (weave (starred [] parts) last) = distinct (passed parts) := by
  have hcalls : (objectCall.occurrences (weave (starred [] parts) last)).map (fun m => (m.group 1, m.group 2)) =
      objectCalls parts := by
    rw [occurrences]
    have hlength := length_le_weave [] parts last
    exact matchesFrom_calls hflat hclosed (.inl rfl) rfl (by omega)
  rw [passed, ← hcalls, filter_map, map_map]
  rfl

/-- An object is starred if one with the same inside is passed in some call, unless it makes a dictionary. The order
in which the insides are taken makes no difference. -/
theorem passAsKeywords_weave (hflat : Flat parts last) {order : List Text} (horder : order.Perm (distinct (passed parts))) :
    passAsKeywords order (weave (starred [] parts) last) =
      weave (parts.map fun part => (unstar (part.1 ++ stars (passed parts) part.2), object part.2)) last := by
  have hmem {d : Text} : d ∈ order ↔ d ∈ passed parts := horder.mem_iff.trans mem_distinct
  have hstarred : starred (order.reverse ++ []) parts = starred (passed parts) parts :=
    starred_congr fun d => by simp [hmem]
  have hfold := @foldl_replace_object parts last [] hflat order (fun d hd => noBrace_of_passed hflat (hmem.mp hd))
    (horder.nodup_iff.mpr (nodup_distinct _)) fun _ _ => not_mem_nil
  rw [hstarred] at hfold
  exact (congrArg (replace _ _) hfold).trans (replace_dictionary hflat)

end

/-! ### Two lines -/

/-- The gaps and insides of a line that assigns an object and one that passes an object to a function. -/
def twoLines (v e f d : Text) : List (Text × Text) :=
  [(v ++ " = ", e), ('\n' :: (f ++ ['(']), d)]

section
variable {v f e d : Text}

theorem flat_twoLines (hv : IsName v) (hf : IsName f) (he : NoBrace e) (hd : NoBrace d) :
    Flat (twoLines v e f d) [')'] := by
  have hopen : isWord '{' = false := by decide
  have hclose : isWord '}' = false := by decide
  refine ⟨?_, ?_, by decide, by decide⟩
  · simp [twoLines, NoBrace, hv.not_mem hopen, hv.not_mem hclose, hf.not_mem hopen, hf.not_mem hclose]
  · simpa [twoLines] using ⟨he, hd⟩

theorem callee_assignment (v : Text) : callee (v ++ " = ") = [] := by
  simp [callee]

theorem callee_line (f : Text) : callee ('\n' :: (f ++ ['('])) = lastWord f :=
  (callee_cons rfl (by decide) _).trans (callee_concat f)

theorem closed_twoLines (v e f d : Text) : Closed (twoLines v e f d) [')'] :=
  ⟨fun h => absurd (callee_assignment v) h, fun _ => rfl, trivial⟩

theorem passed_twoLines (v e f d : Text) :
    passed (twoLines v e f d) = if lastWord f ≠ [] ∧ lastWord f ∉ objectFunctions then [d] else [] := by
  have hpairs : (twoLines v e f d).map (fun part => (callee part.1, part.2)) = [([], e), (lastWord f, d)] := by
    simp only [twoLines, map_cons, map_nil, callee_assignment, callee_line]
  rw [passed, objectCalls, hpairs]
  by_cases h : lastWord f = []
  · simp [h]
  · by_cases hmem : lastWord f ∈ objectFunctions <;> simp [h, hmem]

theorem unstar_of_not_mem {gap : Text} (h : '.' ∉ gap) : unstar gap = gap :=
  if_neg fun hsuffix => h ((isSuffixOf_iff_suffix.mp hsuffix).subset (by decide))

def objectLines (v e f d : Text) : Text :=
  v ++ " = " ++ object e ++ "\n" ++ f ++ "(" ++ object d ++ ")"

theorem passAsKeywords_objectLines (hv : IsName v) (hf : IsName f) (he : NoBrace e) (hd : NoBrace d)
    {order : List Text} (horder : order.Perm (passedInsides (objectLines v e f d))) :
    passAsKeywords order (objectLines v e f d) =
      v ++ " = " ++ (stars (passed (twoLines v e f d)) e ++ (object e ++ ("\n" ++ f ++ "(" ++
        (stars (passed (twoLines v e f d)) d ++ (object d ++ ")"))))) := by
  have hpoint : isWord '.' = false := by decide
  have hstars (inside : Text) : '.' ∉ stars (passed (twoLines v e f d)) inside := by
    unfold stars
    split
    · decide
    · exact not_mem_nil
  have hscript : objectLines v e f d = weave (starred [] (twoLines v e f d)) [')'] := by
    simp [objectLines, starred, twoLines, weave, stars_nil]
  have hflat := flat_twoLines hv hf he hd
  rw [hscript, passedInsides_weave hflat (closed_twoLines v e f d)] at horder
  rw [hscript, passAsKeywords_weave hflat horder]
  generalize stars (passed (twoLines v e f d)) = marks at hstars
  have hfirst : unstar (v ++ " = " ++ marks e) = v ++ " = " ++ marks e :=
    unstar_of_not_mem (by simp [hv.not_mem hpoint, hstars])
  have hsecond : unstar ('\n' :: (f ++ ['(']) ++ marks d) = '\n' :: (f ++ ['(']) ++ marks d :=
    unstar_of_not_mem (by simp [hf.not_mem hpoint, hstars])
  simp only [twoLines, map_cons, map_nil, weave, hfirst, hsecond]
  simp

/-- An object is passed with its keywords, and the one that is assigned on the line before is left as it is, if and only
if the insides of the two differ and the function is a word that takes keywords. The order in which the insides are
taken makes no difference. -/
theorem keywords_only_in_call_iff (hv : IsName v) (hf : IsName f) (he : NoBrace e) (hd : NoBrace d) :
    (∀ order, order.Perm (passedInsides (objectLines v e f d)) →
      passAsKeywords order (objectLines v e f d) = convertObjectCalls (objectLines v e f d)) ∧
      (convertObjectCalls (objectLines v e f d) = v ++ " = " ++ object e ++ "\n" ++ f ++ "(**" ++ object d ++ ")" ↔
        e ≠ d ∧ lastWord f ≠ [] ∧ lastWord f ∉ objectFunctions) := by
  have hconverted := passAsKeywords_objectLines hv hf he hd (Perm.refl _)
  refine ⟨fun order horder => (passAsKeywords_objectLines hv hf he hd horder).trans hconverted.symm, ?_⟩
  have hexpected : v ++ " = " ++ object e ++ "\n" ++ f ++ "(**" ++ object d ++ ")" =
      v ++ " = " ++ (object e ++ ("\n" ++ f ++ "(" ++ ("**" ++ (object d ++ ")")))) := by
    simp
  rw [convertObjectCalls, hconverted, hexpected, append_cancel_left_eq, passed_twoLines]
  by_cases hcall : lastWord f ≠ [] ∧ lastWord f ∉ objectFunctions
  · rw [if_pos hcall]
    by_cases hed : e = d
    · simp [stars, hed, object]
    · simp [stars, hed, hcall]
  · rw [if_neg hcall]
    simp [stars_nil, hcall, object]

theorem same_object_spoiled : convertObjectCalls "v = \x7ba: 1\x7d\nf(\x7ba: 1\x7d)" ≠
    "v = \x7ba: 1\x7d\nf(**\x7ba: 1\x7d)" := by
  have hv : IsName ['v'] := ⟨by simp, by simp; decide⟩
  have hf : IsName ['f'] := ⟨by simp, by simp; decide⟩
  have hd : NoBrace "a: 1" := ⟨by decide, by decide⟩
  exact fun h => ((keywords_only_in_call_iff hv hf hd hd).2.mp h).1 rfl

end

end Geoscript.Script
