import Mathlib.Data.List.DropRight
import Geoscript.Proofs.Pattern.Enclosed
import Geoscript.Proofs.Script.CallPlaces
import Geoscript.Proofs.Text.Fields

/-! Lists as receivers. A receiver that ends with a square bracket is read backwards: past the bracket that opens it,
on to the next blank or to the start of the text, whose first character is left out. -/

namespace Geoscript.Script
open List Text Pattern
variable {spaced : Bool} {name u r a : Text}

/-! ### The only call in a text -/

/-- A match reads all characters before the first dot for the end of the receiver. -/
theorem callOf_match_dot {depth : Nat} {moving : Bool} {c : Cursor} {m : Match} {w rest : Text}
    (h : (callOf spaced name).matchAt depth moving c = some m) (hw : '.' ∉ w) (hafter : c.after = w ++ '.' :: rest) :
    m.group 1 = w ∧ (∀ ch ∈ w, (receiverSet spaced).has ch) ∧
      ∃ a z, ')' ∉ a ∧ rest = name ++ '(' :: (a ++ ')' :: (z ++ m.stop.after)) := by
  obtain ⟨r, a, z, hgroup, -, hset, -, hclose, -, -, hover⟩ := callOf_match h
  have hdot : '.' ∉ r := fun hmem => absurd (hset _ hmem) (by cases spaced <;> decide)
  have hcut : r ++ '.' :: (name ++ '(' :: (a ++ ')' :: (z ++ m.stop.after))) = w ++ '.' :: rest := by
    rw [← hafter, hover.after]
    simp
  obtain ⟨rfl, hrest⟩ := cut_unique hw hdot hcut
  exact ⟨hgroup, hset, a, z, hclose, hrest.symm⟩

/-- A call at the end of a text without another dot is found once, with all that may belong to its receiver. -/
theorem occurrences_call (hr : r ≠ []) (hset : ∀ ch ∈ r, (receiverSet spaced).has ch) (hopen : '(' ∉ a)
    (hclose : ')' ∉ a) (hdot : '.' ∉ u ++ r) (hlast : ∀ ch ∈ u.getLast?, (receiverSet spaced).has ch = false) :
    ∃ m, (callOf spaced name).occurrences (u ++ (r ++ '.' :: (name ++ '(' :: (a ++ [')'])))) = [m] ∧ m.group 1 = r ∧
      m.start.pos = u.length := by
  obtain ⟨c, hc, hafter⟩ := @Cursor.exists_over (.start (u ++ (r ++ '.' :: (name ++ '(' :: (a ++ [')']))))) u _ rfl
  obtain ⟨m, hm⟩ := Option.isSome_iff_exists.mp (@matchAt_callOf spaced name
    ((u ++ (r ++ '.' :: (name ++ '(' :: (a ++ [')'])))).length + 1) c r a [] hr hset hopen hclose (by simpa using hafter))
  have hdots := not_or.mp (mem_append.not.mp hdot)
  obtain ⟨hgroup, -, a', z, hclose', hrest⟩ := callOf_match_dot hm hdots.2 hafter
  have hstop : m.stop.after = [] := by
    obtain ⟨-, htail⟩ := cut_unique hclose' hclose (cons.inj (append_cancel_left hrest)).2
    exact (append_eq_nil_iff.mp htail.symm).2
  refine ⟨m, occurrences_eq_singleton hc hm ?_ ?_, hgroup, ?_⟩
  · intro v w c₁ hvw hw hc₁
    rw [Option.eq_none_iff_forall_ne_some]
    intro m' hm'
    -- With a start before it, the character before the receiver would belong to the receiver.
    have hafter₁ : c₁.after = (w ++ r) ++ '.' :: (name ++ '(' :: (a ++ [')'])) := by
      have heq := hc₁.after
      simp only [Cursor.start, hvw, append_assoc] at heq
      rw [append_assoc]
      exact (append_cancel_left heq).symm
    rw [hvw, append_assoc, mem_append, not_or] at hdot
    obtain ⟨-, hall, -⟩ := callOf_match_dot hm' hdot.2 hafter₁
    obtain ⟨w, d, rfl⟩ := (eq_nil_or_concat' w).resolve_left hw
    have hd := hlast d (by rw [hvw, ← append_assoc]; simp)
    exact absurd (hall d (by simp)) (by simp [hd])
  · intro v c₁ moving m' hv hm'
    obtain ⟨r', a', z', -, -, -, -, -, -, -, hover⟩ := callOf_match hm'
    have hnil := hv.after
    rw [hstop, hover.after] at hnil
    simp at hnil
  · rw [(reads_of_matchAt hm).1, hc.pos]
    simp [Cursor.start]

/-! ### The scan backwards -/

section
variable {opening closing d : Char} {wraps : Bool} {n : Int} {x : Text}

theorem backToOpening_inside (hn : n ≠ 0) (hopen : opening ∉ x) (hclose : closing ∉ x) (e : Char) (rest : Text) :
    backToOpening opening closing wraps n (x ++ e :: rest) =
      (backToOpening opening closing wraps n (e :: rest)).map (x ++ ·) := by
  induction x with
  | nil => exact (congrFun Except.map_id _).symm
  | cons d x ih =>
    rw [mem_cons, not_or] at hopen hclose
    obtain ⟨y, ys, hys⟩ : ∃ y ys, x ++ e :: rest = y :: ys := exists_cons_of_ne_nil (by simp)
    have hstep : backToOpening opening closing wraps n (d :: y :: ys) =
        (backToOpening opening closing wraps n (y :: ys)).map (d :: ·) := by
      rw [backToOpening]
      simp [Ne.symm hopen.1, Ne.symm hclose.1, hn]
    rw [cons_append, hys, hstep, ← hys, ih hopen.2 hclose.2]
    cases backToOpening opening closing wraps n (e :: rest) <;> rfl

/-- Once no bracket is open, the scan goes on to the next blank. It leaves out the first character of the text. -/
theorem backToOpening_outside (hn : (if d == opening then n - 1 else if d == closing then n + 1 else n) = 0)
    (hd : d ≠ ' ') (hopen : opening ∉ x) (hclose : closing ∉ x) :
    backToOpening opening closing false n (d :: x) = .ok ((d :: x).dropLast.takeWhile (· != ' ')) := by
  induction x generalizing d n with
  | nil => rw [backToOpening]; rfl
  | cons e x ih =>
    rw [mem_cons, not_or] at hopen hclose
    rw [backToOpening, dropLast_cons_cons, takeWhile_cons_of_pos (by simpa using hd)]
    simp only [hn]
    by_cases he : e = ' '
    · cases x <;> simp [he]
    · rw [ih (by simp [Ne.symm hopen.1, Ne.symm hclose.1]) he hopen.2 hclose.2]
      simp [he, Except.map]

end

/-- What is read of a text and of the bracket behind it: all from the last blank on, without the first character. -/
def readBack (before : Text) : Text :=
  ((before ++ ['[']).drop 1).rtakeWhile (· != ' ')

theorem receiverBefore_list {before inner : Text} (hbefore : '[' ∉ before ∧ ']' ∉ before)
    (hinner : '[' ∉ inner ∧ ']' ∉ inner) (rest : Text) :
    receiverBefore (before ++ '[' :: (inner ++ ']' :: rest)) '[' ']' (before.length + inner.length + 2 : Nat) =
      .ok (readBack before ++ inner) := by
  have hplace : ((before.length + inner.length + 2 : Nat) : Int) - 2 = (before.length + inner.length : Nat) := by omega
  have htake : ((before ++ '[' :: (inner ++ ']' :: rest)).take (before.length + inner.length + 1)).reverse =
      inner.reverse ++ '[' :: before.reverse := by
    have hcut : before ++ '[' :: (inner ++ ']' :: rest) = (before ++ '[' :: inner) ++ ']' :: rest := by simp
    rw [hcut, take_left' (by simp; omega)]
    simp
  have hrange : ¬(((before.length + inner.length : Nat) : Int) < 0 ∨
      ((before.length + inner.length : Nat) : Int) ≥ (before ++ '[' :: (inner ++ ']' :: rest)).length) := by
    simp only [length_append, length_cons]
    omega
  have hback : backToOpening '[' ']' false 1 (inner.reverse ++ '[' :: before.reverse) =
      .ok (inner.reverse ++ ('[' :: before.reverse).dropLast.takeWhile (· != ' ')) := by
    rw [backToOpening_inside (by decide) (by simpa using hinner.1) (by simpa using hinner.2),
      backToOpening_outside (by rfl) (by decide) (by simpa using hbefore.1) (by simpa using hbefore.2)]
    rfl
  have hread : (('[' :: before.reverse).dropLast.takeWhile (· != ' ')).reverse = readBack before := by
    rw [readBack, rtakeWhile, reverse_drop]
    simp [dropLast_eq_take]
  have hnonneg : ¬((before.length + inner.length : Nat) : Int) < 0 := by omega
  rw [receiverBefore, hplace]
  simp only [if_neg hnonneg, decide_eq_false hnonneg, decide_eq_true_eq, Bool.false_or, if_neg (not_or.mp hrange).2,
    Int.toNat_natCast, htake, hback]
  rw [← hread]
  simp [bind, Except.bind, pure, Except.pure]

theorem readBack_eq_iff {before : Text} : readBack before = ['['] ↔ before.getLast? = some ' ' ∨ before.length = 1 := by
  cases before with
  | nil => simp [readBack]
  | cons b before =>
    have hkeep : readBack (b :: before) = before.rtakeWhile (· != ' ') ++ ['['] := by
      rw [readBack, cons_append, drop_succ_cons, drop_zero, rtakeWhile_concat_pos _ _ _ rfl]
    rw [hkeep, append_left_eq_self, rtakeWhile_eq_nil_iff]
    cases before with
    | nil => simp
    | cons d before => simp [getLast?_eq_some_getLast]

/-! ### Calls on a list -/

/-- A list of words ends with one of them, and what stands before it ends with a blank. -/
theorem exists_last_of_join {ws : List Text} (hws : ws ≠ []) :
    ∃ front w, join ", " ws = front ++ w ∧ w ∈ ws ∧ ∀ ch ∈ front.getLast?, ch = ' ' := by
  induction ws with
  | nil => exact absurd rfl hws
  | cons w ws ih =>
    by_cases hnil : ws = []
    · subst hnil
      exact ⟨[], w, rfl, mem_cons_self, by simp⟩
    · obtain ⟨front, last, hjoin, hlast, hfront⟩ := ih hnil
      refine ⟨w ++ ", " ++ front, last, ?_, mem_cons_of_mem w hlast, ?_⟩
      · rw [join_cons _ _ hnil, hjoin, ← append_assoc]
      · cases front with
        | nil => simp
        | cons d front => simpa [getLast?_append] using hfront

/-- A call on a list literal of words, at the end of a text whose other part has no dot and no square bracket. -/
structure ListCall where
  before : Text
  items : List Text
  name : Text
  argument : Text
  before_plain : '.' ∉ before ∧ '[' ∉ before ∧ ']' ∉ before
  items_ne_nil : items ≠ []
  items_word : ∀ w ∈ items, w ≠ [] ∧ ∀ ch ∈ w, isWord ch
  name_plain : isPlain name
  argument_plain : '(' ∉ argument ∧ ')' ∉ argument

namespace ListCall
variable (c : ListCall)

def inner : Text :=
  join ", " c.items

def literal : Text :=
  '[' :: (c.inner ++ [']'])

def text : Text :=
  c.before ++ (c.literal ++ '.' :: (c.name ++ '(' :: (c.argument ++ [')'])))

theorem exists_last : ∃ front w, c.inner = front ++ w ∧ w ∈ c.items ∧ ∀ ch ∈ front.getLast?, ch = ' ' :=
  exists_last_of_join c.items_ne_nil

theorem not_mem_inner {ch : Char} (hword : isWord ch = false) (hsep : ch ∉ ", ".toList) : ch ∉ c.inner := by
  intro hmem
  rcases mem_join hmem with h | ⟨w, hw, h⟩
  · exact hsep h
  · exact Bool.false_ne_true (hword.symm.trans ((c.items_word w hw).2 ch h))

/-- The last word of the list and its closing bracket are what is found of the receiver. -/
theorem exists_match : ∃ m, (callOf false c.name).occurrences c.text = [m] ∧ hasOpenSquare (m.group 1) ∧
    dotOf m = (c.before.length + c.inner.length + 2 : Nat) := by
  obtain ⟨front, w, hinner, hw, hfront⟩ := c.exists_last
  have hword := (c.items_word w hw).2
  have hset : ∀ ch ∈ w ++ [']'], (receiverSet false).has ch := by
    rw [forall_mem_append]
    exact ⟨fun ch hch => has_receiverSet (hword ch hch), forall_mem_singleton.mpr rfl⟩
  have hdot : '.' ∉ (c.before ++ '[' :: front) ++ (w ++ [']']) := by
    have hnot := c.not_mem_inner (show isWord '.' = false by decide) (by decide)
    rw [hinner] at hnot
    simpa [c.before_plain.1] using hnot
  have hlast : ∀ ch ∈ (c.before ++ '[' :: front).getLast?, (receiverSet false).has ch = false := by
    cases front with
    | nil => simp; decide
    | cons d front =>
      intro ch hch
      obtain rfl : ch = ' ' := hfront ch (by simpa [getLast?_append] using hch)
      decide
  obtain ⟨m, hm, hgroup, hpos⟩ := @occurrences_call false c.name _ _ _ (by simp) hset c.argument_plain.1
    c.argument_plain.2 hdot hlast
  refine ⟨m, ?_, ?_, ?_⟩
  · rw [← hm]
    simp [text, literal, hinner]
  · have hnone : ∀ b : Char, isWord b = false → List.count b w = 0 := fun b hb =>
      count_eq_zero.mpr fun hmem => Bool.false_ne_true (hb.symm.trans (hword b hmem))
    rw [hgroup, hasOpenSquare]
    simp [Text.count, hnone '[' rfl, hnone ']' rfl]
  · rw [dotOf, hpos, hgroup, hinner]
    simp
    omega

theorem callReceivers_text : callReceivers [] c.name c.text = .ok [readBack c.before ++ (c.inner ++ [']'])] := by
  obtain ⟨m, hm, hsquare, hdot⟩ := c.exists_match
  have hfound : callMatches [] c.name c.text = .ok [m] := by
    rw [callMatches, c.name_plain, ← hm]
    rfl
  have hreceiver : receiverOf c.text m = .ok (readBack c.before ++ (c.inner ++ [']'])) := by
    have hback := receiverBefore_list c.before_plain.2 ⟨c.not_mem_inner rfl (by decide),
      c.not_mem_inner rfl (by decide)⟩ ('.' :: (c.name ++ '(' :: (c.argument ++ [')'])))
    have htext : c.text = c.before ++ '[' :: (c.inner ++ ']' :: '.' :: (c.name ++ '(' :: (c.argument ++ [')']))) := by
      simp [text, literal]
    rw [receiverOf, if_pos hsquare, hdot, htext, hback]
    simp [Except.map]
  rw [callReceivers, hfound]
  show (do return [← receiverOf c.text m]) = _
  rw [hreceiver]
  rfl

/-- A call on a list has one receiver. It is the list if and only if a blank stands before the list, or a single
character of any kind. -/
theorem receiver_is_list_iff : (∃ receiver, callReceivers [] c.name c.text = .ok [receiver]) ∧
    (callReceivers [] c.name c.text = .ok [c.literal] ↔ c.before.getLast? = some ' ' ∨ c.before.length = 1) := by
  rw [callReceivers_text]
  refine ⟨⟨_, rfl⟩, ?_⟩
  rw [← readBack_eq_iff, Except.ok.injEq, singleton_inj]
  show readBack c.before ++ (c.inner ++ [']']) = ['['] ++ (c.inner ++ [']']) ↔ _
  exact append_left_inj _

/-- The call `[1, 2, 3, 4].every(checkAge)` behind a text. -/
def everyOf (before : Text) (h : '.' ∉ before ∧ '[' ∉ before ∧ ']' ∉ before) : ListCall where
  before := before
  items := ["1", "2", "3", "4"]
  name := "every"
  argument := "checkAge"
  before_plain := h
  items_ne_nil := by simp
  items_word := by
    have hword (d : Char) (hd : isWord d) : [d] ≠ [] ∧ ∀ ch ∈ [d], isWord ch :=
      ⟨cons_ne_nil d [], forall_mem_singleton.mpr hd⟩
    simp only [forall_mem_cons]
    exact ⟨hword '1' (by decide), hword '2' (by decide), hword '3' (by decide), hword '4' (by decide), by simp⟩
  name_plain := by decide
  argument_plain := by decide

theorem list_at_start_cut : callReceivers [] "every" "[1, 2, 3, 4].every(checkAge)" ≠ .ok ["[1, 2, 3, 4]"] ∧
    callReceivers [] "every" "print([1, 2, 3, 4].every(checkAge)" ≠ .ok ["[1, 2, 3, 4]"] ∧
    callReceivers [] "every" "a = [1, 2, 3, 4].every(checkAge)" = .ok ["[1, 2, 3, 4]"] :=
  ⟨(receiver_is_list_iff (everyOf [] (by decide))).2.not.mpr (by decide),
    (receiver_is_list_iff (everyOf "print(" (by decide))).2.not.mpr (by decide),
    (receiver_is_list_iff (everyOf "a = " (by decide))).2.mpr (by decide)⟩

end ListCall

end Geoscript.Script
